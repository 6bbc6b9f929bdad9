import Texdown.Notice
import Texdown.Web.Url

/-!
# Which URLs may be fetched

Only URLs of the web that name a host, and only secure ones unless plain ones are allowed.

Results:
* `refusal?_eq_none_iff`: which URLs are not refused.
-/
namespace Texdown.Web

def unsupportedScheme (t scheme : Text) : Error :=
  .networkSecurity ("Unsupported URL scheme: ".toList
    ++ (if scheme.isEmpty then "(none)".toList else scheme) ++ " in ".toList ++ t.quoted)

def insecureScheme (t scheme : Text) : Error :=
  .networkSecurity ("HTTPS required but got: ".toList ++ scheme ++ " (".toList ++ t ++ [')'])

def missingHost (t : Text) : Error :=
  .networkSecurity ("URL missing hostname: ".toList ++ t.quoted)

def Url.isSecure (u : Url) : Bool := u.scheme == "https".toList

/-- Why a URL, written as a text, is refused. -/
def refusal? (requireHttps : Bool) (t : Text) (u : Url) : Option Error :=
  if u.isRemote = false then some (unsupportedScheme t u.scheme)
  else if requireHttps = true ∧ u.isSecure = false then some (insecureScheme t u.scheme)
  else if u.host = [] then some (missingHost t)
  else none

theorem refusal?_eq_none_iff {requireHttps : Bool} {t : Text} {u : Url} :
    refusal? requireHttps t u = none ↔
      u.isRemote = true ∧ (requireHttps = true → u.isSecure = true) ∧ u.host ≠ [] := by
  unfold refusal?
  cases u.isRemote <;> cases requireHttps <;> cases u.isSecure <;> simp

def check (requireHttps : Bool) (t : Text) : Except Error Unit :=
  match Url.read t with
  | .error e => .error e
  | .ok u =>
    match refusal? requireHttps t u with
    | some e => .error e
    | none => .ok ()

def checkNotices (t : Text) : List Notice :=
  match Url.read t with
  | .ok u => if u.isSecure then [] else [.insecureUrl t]
  | .error _ => []

end Texdown.Web
