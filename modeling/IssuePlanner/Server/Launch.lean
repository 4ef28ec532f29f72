import IssuePlanner.Server.Options
import IssuePlanner.Server.Startup

/-! The command that launches the server: it reads its options, checks key and repository, passes the options
on as variables and then runs the server. Variables change only if the key is there. -/

namespace IssuePlanner.Server

inductive LaunchError where
  | usage (e : UsageError)
  | noKey (provider : Provider)
  | noDirectory (path : String)
  | noRepository (path : String)
  deriving DecidableEq, Repr

def commandName : String := "yellhorn-mcp"

def keyVariable : Provider → String
  | .openai => "OPENAI_API_KEY"
  | .gemini => "GEMINI_API_KEY"

def LaunchError.lines : LaunchError → List String
  | usage e => [commandName ++ ": error: " ++ e.message]
  | noKey p =>
    [keyVariable p ++ " environment variable is not set",
     "Please set the " ++ keyVariable p ++ " environment variable with your " ++ p.name ++ " API key"]
  | noDirectory path => ["Repository path " ++ path ++ " does not exist"]
  | noRepository path => [path ++ " is not a Git repository"]

def LaunchError.exitCode : LaunchError → UInt32
  | usage _ => 2
  | _ => 1

inductive Launch where
  | help
  | failed (e : LaunchError)
  | running (lines : List String)

def Options.ofEnvironment (env : Environment) (here : String) : Options :=
  { repoPath := env.repoPath.getD here, model := env.modelName, reasoning := env.reasoning.getD "full" }

def Options.passOn (o : Options) (env : Environment) : Environment :=
  { env with
    repoPath := some o.repoPath, model := some o.model, reasoning := some o.reasoning
    search := if o.noSearch then some "off" else env.search }

/-- The lines of a server that runs. Only Gemini models can search. -/
def Options.lines (o : Options) (path : String) : List String :=
  startLines o.host (Number.intText o.port) path o.model
    ++ if needsOpenai o.model then [] else [searchLine (!o.noSearch)]

def launchAt (place : Place) (o : Options) : Launch :=
  let path := place.fullPath o.repoPath
  if !place.doesExist o.repoPath then .failed (.noDirectory path)
  else if !place.isRepository o.repoPath then .failed (.noRepository path)
  else .running (o.lines path)

/-- Launches the server; gives the variables afterwards too. -/
def launch (place : Place) (env : Environment) (args : List String) : Launch × Environment :=
  match (Options.ofEnvironment env place.root).parse args with
  | .error e => (.failed (.usage e), env)
  | .ok none => (.help, env)
  | .ok (some o) =>
    let provider := providerOf o.model
    if (env.key? provider).isNone then (.failed (.noKey provider), env)
    else (launchAt place o, o.passOn env)

end IssuePlanner.Server
