import SchemaChart.Settings.Basic
import SchemaChart.Text.Lower

/-!
# Hosting

How the processes that serve requests are run. Most of it is fixed; the address, the
number of workers, their patience and where logs go can be set by variables.
-/

namespace SchemaChart

structure Hosting where
  bind : Text
  backlog : Int
  workers : Int
  workerClass : Text
  workerConnections : Int
  /-- Seconds after which a silent worker is replaced. -/
  timeout : Int
  keepAlive : Int
  /-- Requests after which a worker is replaced. -/
  maxRequests : Int
  maxRequestsJitter : Int
  preload : Bool
  accessLog : Text
  errorLog : Text
  logLevel : Text
  accessPattern : Text
  processName : Text
  daemon : Bool
  deriving DecidableEq, Repr

/-- Unless their number is set there are two workers for each processor and one more. -/
def Hosting.read (processors : Int) (env : Environment) : Except NumberFault Hosting := do
  let workers ← match env.value? "GUNICORN_WORKERS" with
    | some count => readInteger count
    | none => .ok (2 * processors + 1)
  let timeout ← readInteger (env.value "GUNICORN_TIMEOUT" "120")
  return {
    bind := env.value "GUNICORN_BIND" "0.0.0.0:5001"
    backlog := 2048
    workers := workers
    workerClass := "sync"
    workerConnections := 1000
    timeout := timeout
    keepAlive := 2
    maxRequests := 1000
    maxRequestsJitter := 50
    preload := true
    accessLog := env.value "GUNICORN_ACCESS_LOG" "-"
    errorLog := env.value "GUNICORN_ERROR_LOG" "-"
    logLevel := (env.value "LOG_LEVEL" "info").lower
    accessPattern := "%(h)s %(l)s %(u)s %(t)s \"%(r)s\" %(s)s %(b)s \"%(f)s\" \"%(a)s\""
    processName := "ddl_to_er_app"
    daemon := false }

end SchemaChart
