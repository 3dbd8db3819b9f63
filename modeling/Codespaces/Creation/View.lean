import Codespaces.Codespace.View
import Codespaces.Creation

/-!
# JSON views of creations

What a user asks for and what channels are reached by, as JSON values for logs and tools.
-/

namespace Codespaces

open Json

def RetentionPeriod.view (p : RetentionPeriod) : Json :=
  .record [
    ("kind", .text (match p with
      | .unset => "Unset"
      | .cleared => "Cleared"
      | .period _ => "Set")),
    ("duration", viewOption Duration.view p.duration?)]

def Channel.name : Channel → String
  | .shell => "shell"
  | .notebook => "notebook"

def CreateOptions.view (o : CreateOptions) : Json :=
  .record [("repo", .text o.selection.repository), ("branch", .text o.selection.branch),
    ("machine", .text o.selection.machine),
    ("dev_container_path", .text o.selection.devContainerPath),
    ("location", .text o.selection.location), ("display_name", .text o.displayName),
    ("idle_timeout", viewOption Duration.view o.idleTimeout),
    ("retention_period", o.retentionPeriod.view),
    ("permissions_opt_out", .bool o.permissionsOptOut), ("show_status", .bool o.showStatus),
    ("channel", viewOption (fun c => .text (Channel.name c)) o.channel)]

def Endpoint.view : Endpoint → Json
  | .shell port user => .record [("shell", .record [("local_port", .ofNat port.toNat),
      ("remote_user", .text user)])]
  | .notebook port token => .record [("notebook", .record [("local_port", .ofNat port.toNat),
      ("token", .text token), ("url", .text (notebookUrl port token))])]

def RemoteServer.view (s : RemoteServer) : Json :=
  .record [("port", .ofNat s.port.toNat), ("user", viewText s.user), ("token", viewText s.token)]

end Codespaces
