import Codespaces.Codespace.View
import Codespaces.Workflow.Call

/-!
# Logs

The log of a run as JSON: one object per event. Calls have names, and arguments in order.
-/

namespace Codespaces.Workflow

def Call.name : Call → String
  | .getRepository _ => "get_repository"
  | .listDevContainers .. => "list_dev_containers"
  | .suggestRepositories .. => "repo_suggestions"
  | .listMachines .. => "list_machines"
  | .regionLocation => "region_location"
  | .createCodespace _ => "create_codespace"
  | .getCodespace .. => "get_codespace"
  | .startCodespace _ => "start_codespace"
  | .setupSteps _ => "post_create_states"
  | .currentUser => "current_user"
  | .authorizedKeys _ => "authorized_keys"
  | .openRelay _ => "open"
  | .startServer _ => "start_server"
  | .forwardPort _ => "forward_port"
  | .closeRelay => "close"
  | .runShell .. => "run_shell"
  | .keepForwarding => "keep_forwarding"

def Call.arguments : Call → List Json
  | .getRepository spec => [.text spec]
  | .listDevContainers id branch limit => [.ofNat id.toNat, .text branch, .ofNat limit]
  | .suggestRepositories typed limit => [.text typed, .ofNat limit]
  | .listMachines id branch location => [.ofNat id.toNat, .text branch, .text location]
  | .regionLocation | .currentUser | .closeRelay | .keepForwarding => []
  | .createCodespace request => [request.toJson]
  | .getCodespace name withConnection => [.text name, .bool withConnection]
  | .startCodespace name | .setupSteps name => [.text name]
  | .authorizedKeys login => [.text login]
  | .openRelay connection => [connection.view]
  | .startServer (.ssh keys) => [.text "ssh", .text keys]
  | .startServer .notebook => [.text "notebook"]
  | .forwardPort port => [.ofNat port.toNat]
  | .runShell port user => [.ofNat port.toNat, .text user]

def Message.view : Message → Json
  | .stage text => .record [("step", .text text)]
  | .success text => .record [("success", .text text)]
  | .warning text => .record [("warn", .text text)]
  | .line text => .record [("println", .text text)]
  | .setup step => .record [("event", step.view)]
  | .result text => .record [("result", .text text)]
  | .hint text => .record [("hint", .text text)]

def Event.view : Event → Json
  | .called call => .record [("call", .text call.name), ("args", .array call.arguments)]
  | .asked prompt options default => .record [("choose", .text prompt),
      ("options", .array (options.map .text)), ("default", .ofNat default)]
  | .askedText prompt => .record [("input", .text prompt)]
  | .shown message => message.view

end Codespaces.Workflow
