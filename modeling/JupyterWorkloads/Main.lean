import JupyterWorkloads.ControlPlane
import JupyterWorkloads.Launch.Arguments
import JupyterWorkloads.Launch.Session
import JupyterWorkloads.LogFilter

/-! The command line. The first word says what is run: the control plane, or a launch of one kernel
pod. The objects of the cluster are read from standard input, as one JSON object from paths to
objects. The control plane is run until it has done all that is due and writes the objects to standard
output; a launch writes its pod there. -/
namespace JupyterWorkloads.Main

def environment (flags : List CommandLine.Flag) : IO (List (String × String)) :=
  (flags.filterMap CommandLine.Flag.envName).filterMapM fun name => do
    return (← IO.getEnv name).map (name, ·)

def exitCode : CommandLine.UsageError → UInt32
  | .displayHelp | .displayVersion => 0
  | _ => 2

def refuse (e : CommandLine.UsageError) : IO UInt32 := do
  IO.eprintln e.name
  return exitCode e

/-- A server with the objects of standard input. -/
def cluster : IO Api.Server := do
  let text ← (← IO.getStdin).readToEnd
  let fields := ((Json.ofText? text).bind Json.fields?).getD []
  return fields.foldl (fun (s : Api.Server) row => (s.put row.1 row.2).2) default

def report (lines : List LogLine) : IO Unit := do
  let filter := LogFilter.ofSetting (← IO.getEnv "RUST_LOG")
  for line in lines do
    if filter.allows "ejo_control_plane" line.level then IO.eprintln line.display

def controlPlane (words : List String) : IO UInt32 := do
  match Settings.ofArguments (← environment Settings.flags) words with
  | .error e => refuse e
  | .ok settings =>
    let p := ((ControlPlane.start settings (← cluster)).elapse 100).stop
    report p.log
    IO.println (Json.obj p.server.objects.rows).text
    return 0

def launcher (words : List String) : IO UInt32 := do
  match LaunchArguments.read (← environment LaunchArguments.flags) words with
  | .error e => refuse e
  | .ok given =>
    match LaunchArguments.templateKey given, LaunchArguments.parameters given with
    | .error e, _ | _, .error e =>
      IO.eprintln e.message
      return 1
    | .ok key, .ok parameters =>
      match ((launch key parameters).run.run Api.Server.handle (← cluster)).value with
      | .error e =>
        IO.eprintln e.message
        return 1
      | .ok pod =>
        IO.println (encode pod).text
        return 0

end JupyterWorkloads.Main

open JupyterWorkloads in
def main : List String → IO UInt32
  | "control-plane" :: words => Main.controlPlane words
  | "launch" :: words => Main.launcher words
  | _ => Main.refuse .unknownArgument
