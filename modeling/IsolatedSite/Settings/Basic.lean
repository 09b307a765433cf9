namespace IsolatedSite

structure ServerSettings where
  bind : String
  port : Nat
  root : String
  workers : Option Nat
  deriving DecidableEq, Repr

structure LogSettings where
  level : String
  accessLog : Bool
  accessLogFormat : String
  accessLogFile : Option String
  errorLogFile : Option String
  deriving DecidableEq, Repr

/-- Times are in seconds. -/
structure PerformanceSettings where
  keepAlive : Bool
  backlog : Nat
  maxConnections : Option Nat
  headerReadTimeout : Option Nat
  connectionTimeout : Option Nat
  deriving DecidableEq, Repr

structure HttpSettings where
  serverName : String
  mimeTypes : List (String × String)
  deriving DecidableEq, Repr

structure Settings where
  server : ServerSettings
  logging : LogSettings
  performance : PerformanceSettings
  http : HttpSettings
  deriving DecidableEq, Repr

end IsolatedSite
