import DocStore.Logging.Level
/-!
Records of a log.
-/
namespace DocStore

structure LogRecord where
  level : LogLevel
  target : String
  text : String

end DocStore
