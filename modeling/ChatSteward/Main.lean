import ChatSteward.Server.Config

/-!
# The program

Reads the options of the server from the environment, tells what may be told of the configuration
that they describe, and checks it.
-/

open ChatSteward.Server

/-- The options that the environment gives; the credentials have to be there. -/
def ChatSteward.readOptions : IO (Option Options) := do
  let some appId ← IO.getEnv "LARK_APP_ID" | return none
  let some appSecret ← IO.getEnv "LARK_APP_SECRET" | return none
  let masters ← IO.getEnv "LARK_MASTERS"
  let apiBase ← IO.getEnv "LARK_API_BASE"
  return some { appId, appSecret, masters := masters.getD "", apiBase }

/-- Tells of the configuration; the result is zero exactly when it can be worked with. -/
def main : IO UInt32 := do
  let some options ← ChatSteward.readOptions
    | IO.eprintln "LARK_APP_ID and LARK_APP_SECRET are required"
      return 2
  IO.println ("Lark application: " ++ options.settings.metadata.written)
  match options.config.validate with
  | .error fault =>
    IO.eprintln ("Invalid configuration: " ++ fault.message)
    return 1
  | .ok () =>
    IO.println ("Log level: " ++ options.logLevel.name)
    return 0
