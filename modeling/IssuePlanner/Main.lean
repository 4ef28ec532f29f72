import IssuePlanner.Server.Launch

/-! The command line: reads variables and the directory that the server is pointed to, and reports what
becomes of a launch. -/

namespace IssuePlanner.Main

open Server

def readEnvironment : IO Environment := do
  return { repoPath := ← IO.getEnv "REPO_PATH", model := ← IO.getEnv "YELLHORN_MCP_MODEL"
           reasoning := ← IO.getEnv "YELLHORN_MCP_REASONING", search := ← IO.getEnv "YELLHORN_MCP_SEARCH"
           geminiKey := ← IO.getEnv "GEMINI_API_KEY", openaiKey := ← IO.getEnv "OPENAI_API_KEY" }

def target (env : Environment) (here : String) (args : List String) : String :=
  match (Options.ofEnvironment env here).parse args with
  | .ok (some o) => o.repoPath
  | _ => here

/-- What is known of the directory that a path leads to: whether it is there and whether it holds a
repository. A path in full is a place of its own. -/
def readPlace (path : String) : IO Place := do
  let here ← IO.currentDir
  let isFull := Text.begins path "/"
  let root := if isFull then path else here.toString
  let below := if isFull then [] else normalize (FileTree.names path)
  if ← (here / path / ".git").pathExists then
    return { root, files := ⟨[(below ++ [".git"], .directory)]⟩ }
  else if ← (here / path).pathExists then return { root, files := ⟨[(below, .directory)]⟩ }
  else return { root := here.toString, files := {} }

def report : Launch → IO UInt32
  | .help => return 0
  | .failed e => do
    e.lines.forM IO.eprintln
    return e.exitCode
  | .running lines => do
    lines.forM IO.eprintln
    return 0

end IssuePlanner.Main

open IssuePlanner in
def main (args : List String) : IO UInt32 := do
  let env ← Main.readEnvironment
  let here := (← IO.currentDir).toString
  let place ← Main.readPlace (Main.target env here args)
  Main.report (Server.launch place env args).1
