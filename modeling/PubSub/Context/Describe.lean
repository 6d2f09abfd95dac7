import PubSub.Context.Entity
import PubSub.Qos.Document.Read
import PubSub.Text.Character

/-!
# Descriptions

The diagnostic texts of contexts, nodes and guards, and the profiles from the context's profile file.
-/

namespace PubSub

/-- The range as descriptions name it. -/
def DiscoveryRange.title : DiscoveryRange → String
  | .systemDefault => "SystemDefault"
  | .off => "Off"
  | .localhost => "Localhost"
  | .subnet => "Subnet"

/-- The description of an optional value. -/
def describeOption {α : Type} (describe : α → String) : Option α → String
  | some a => s!"Some({describe a})"
  | none => "None"

/-- A record with its fields, in braces. -/
def describeRecord (title : String) (fields : List (String × String)) (ending : String) : String :=
  let body := ", ".intercalate (fields.map fun f => f.1 ++ ": " ++ f.2)
  title ++ " \x7b " ++ body ++ ending ++ " \x7d"

namespace Options

/-- The description of the options. -/
def describe (options : Options) : String :=
  let peers := ", ".intercalate (options.discoveryPeers.map Text.quote)
  describeRecord "ContextOptions"
    [ ("domain_id", toString options.domainId), ("enclave", Text.quote options.enclave),
      ("discovery_range", options.discoveryRange.title), ("discovery_peers", "[" ++ peers ++ "]"),
      ("instance_id", describeOption (fun (id : UInt32) => toString id.toNat) options.instanceId),
      ("waitset_capacity", toString options.waitSetCapacity),
      ("qos_profile_path", describeOption Text.quote options.qosProfilePath) ] ""

end Options

/-- The description of a node. -/
def Node.describe (node : Node) : String :=
  describeRecord "Node"
    [ ("name", Text.quote node.name), ("namespace", Text.quote node.nodeNamespace),
      ("gid", "Gid(" ++ node.gid.text ++ ")") ] ""

namespace Context

/-- The description of the context, which leaves out what changes. -/
def describe (ctx : Context) : String :=
  describeRecord "Context"
    [ ("backend", Text.quote implementationName), ("instance_id", toString ctx.instanceId.toNat),
      ("options", ctx.options.describe) ] ", .."

/-- The description of a guard whose number is written as `id`. -/
def describeGuard (ctx : Context) (guard : GuardId) (id : String) : String :=
  describeRecord "GuardCondition"
    [("id", id), ("triggered", toString (ctx.board.isTriggered guard))] ""

/-- The profile with a name from the profile file of the context. No name stands for the file's
default. -/
def qosProfile (ctx : Context) (files : Qos.FileSystem) (name : String) :
    Except Error Qos.Profile :=
  match ctx.options.qosProfilePath with
  | none => .error (.invalidArgument .noProfileFile)
  | some path => do (← Qos.Document.load files path).select name

end Context

end PubSub
