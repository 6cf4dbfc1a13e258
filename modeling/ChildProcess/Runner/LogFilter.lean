import ChildProcess.Runner.Error
import ChildProcess.LogRecord

/-!
# Choice of log records

Records from the level `info` up are always shown, records of the level `debug`
only for the topics that are enabled; those without a topic go with the topic
`spawn`. Topics can be enabled later, provided that there is a log to show their
records.
-/

namespace ChildProcess
namespace Runner

/-- Which records are shown. -/
structure LogFilter where
  /-- The enabled topics, each once. -/
  topics : List LogTopic := []
  /-- Whether there is a log. -/
  hasLog : Bool := false
  deriving DecidableEq, Repr, Inhabited

namespace LogFilter

/-- Add a topic unless it is there. -/
def insertTopic (topics : List LogTopic) (topic : LogTopic) : List LogTopic :=
  if topics.contains topic then topics else topics ++ [topic]

/-- A filter for a log with some topics. -/
def ofTopics (topics : List LogTopic) : LogFilter :=
  ⟨topics.foldl insertTopic [], true⟩

/-- Enable more topics. Without a log this fails if there is a new one among
them. -/
def enable (filter : LogFilter) (topics : List LogTopic) :
    LogFilter × Except RunError Unit :=
  let enabled := topics.foldl insertTopic filter.topics
  let result :=
    if enabled.length = filter.topics.length || filter.hasLog then .ok ()
    else .error (.tracing "tracing not initialized")
  (⟨enabled, filter.hasLog⟩, result)

/-- The topic that a record is shown with. -/
def showingTopic (record : LogRecord) : LogTopic :=
  record.topic?.getD .spawn

/-- Whether a record is shown. -/
def shows (filter : LogFilter) (record : LogRecord) : Bool :=
  record.level != .debug || filter.topics.contains (showingTopic record)

/-- The names of the enabled topics, sorted. -/
def names (filter : LogFilter) : List String :=
  (LogTopic.all.filter filter.topics.contains).map LogTopic.name

end LogFilter
end Runner
end ChildProcess
