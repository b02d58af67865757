import PatternServer.Proofs.SettingsFaults
import PatternServer.Server.Lifecycle

/-!
# Settings of a workspace

A server that enters a workspace takes the settings it finds there. If there is a complaint about
them, the server stays as it is but for its log and its log level. A fault that there is no
complaint about makes entering the workspace fail, and then nothing at all has changed.
-/

namespace PatternServer.Server

set_option autoImplicit false

open PatternServer.Data PatternServer.Files PatternServer.Settings

section
variable (s : Server) (readFile : Path → Except FileError (List UInt8)) (env : Environment)
  (homes : Homes) (rootUri : String) (options : Value) (room : Nat)

end

end PatternServer.Server
