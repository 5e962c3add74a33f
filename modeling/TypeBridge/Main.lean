import TypeBridge.CommandLine.Answer

/-!
The program: reads the arguments and the configuration file, prints the answer and ends with its status.
-/
namespace TypeBridge.CommandLine

def readFailure : IO.Error → String
  | .noFileOrDirectory _ code _ => s!"No such file or directory (os error {code})"
  | .permissionDenied _ code _ => s!"Permission denied (os error {code})"
  | failure => toString failure

def readConfigFile (path : String) : IO (Except String String) := do
  try
    return .ok (← IO.FS.readFile path)
  catch failure =>
    return .error (readFailure failure)

def run (arguments : List String) : IO UInt32 := do
  let request := Request.parse arguments
  let file ← (configPath? request).mapM readConfigFile
  let result := outcome request file
  match result with
  | .printed text => (← IO.getStdout).putStr text
  | .misused => (← IO.getStderr).putStr usageText
  | .failed error => (← IO.getStderr).putStr (error.detailed ++ "\n")
  return UInt32.ofNat result.status

end TypeBridge.CommandLine

def main (arguments : List String) : IO UInt32 := TypeBridge.CommandLine.run arguments
