import ScopedGrants.Cluster.Object
import ScopedGrants.Text.Quoted

/-!
The wording of failures.
-/

namespace ScopedGrants.Cluster

def Status.describe (status : Status) : String :=
  "ErrorResponse \x7b status: " ++ Text.describe status.status
    ++ ", message: " ++ Text.describe status.message
    ++ ", reason: " ++ Text.describe status.reason
    ++ ", code: " ++ toString status.code.toNat ++ " \x7d"

def Trouble.message : Trouble → String
  | refused words => words
  | rejected status =>
    "ApiError: " ++ status.message ++ ": " ++ status.reason ++ " (" ++ status.describe ++ ")"
  | unaddressable => "the name cannot be part of an address"
  | unreadable => "the answer is not the object asked for"

def Failure.message : Failure → String
  | spaceNotFound name => "Namespace not found: " ++ name
  | secretNotFound space name => "Secret not found: " ++ space ++ "/" ++ name
  | trouble cause => "K8s API error: " ++ cause.message
  | malformed error => "Unreadable grants: " ++ error.message

end ScopedGrants.Cluster
