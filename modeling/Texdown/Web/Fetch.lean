import Texdown.Figure.Name
import Texdown.Figure.Registry
import Texdown.Text.Decimal
import Texdown.Text.Quoted
import Texdown.Value.Basic
import Texdown.Web.Check

/-!
# Fetching from the web

A URL is checked before it is fetched, and so is every URL that a server points to; at most five
such pointers are followed. What comes back is kept only if the last answer is a success, has one of
the accepted types, and is within the limit. How a request is answered is left open, and so is how a client
of the web writes the URLs of its requests.

Results:
* `length_follow_requests`: no more requests are made than are allowed.
-/
namespace Texdown.Web

/-- The answer of a server. What it does not declare is empty. -/
structure Response where
  status : Nat
  reason : Text
  /-- The type that it declares, as it is written. -/
  declaredType : Text := []
  /-- The length that it declares, as it is written. -/
  declared : Text := []
  /-- Where it points to. -/
  location : Option Text := none
  /-- The body, in the pieces it arrives in. -/
  chunks : List Bytes
  deriving DecidableEq, Repr

/-- What becomes of a request. -/
inductive Answer where
  | unreachable
  | response (r : Response)
  deriving DecidableEq, Repr

/-- How a client of the web writes the URLs of its requests. -/
structure Client where
  /-- The URL of the first request for a URL. -/
  first : Text → Text
  /-- The URL of the request behind a response to another one, if the server points elsewhere. -/
  next? : Text → Response → Option Text

/-- What is accepted. -/
structure Policy where
  requireHttps : Bool := true
  limit : Value := .integer 52428800
  /-- What the type has to begin with; nothing means any type. -/
  accepted : List Text := []
  /-- Whether the web may not be used at all. -/
  isDisabled : Bool := false
  deriving Repr, Inhabited

def imageTypes : List Text := ["image/".toList, "application/pdf".toList]

def disablingValues : List Text := ["true".toList, ['1'], "yes".toList, "on".toList]

def disables (value : Text) : Bool := disablingValues.contains (Text.lower value)

namespace Response

def body (r : Response) : Bytes := r.chunks.flatten

def isSuccess (r : Response) : Bool := 200 ≤ r.status && r.status < 300

end Response

/-! ## Content types -/

/-- The type without its parameters, in lower case; what is not made of two parts is plain text. -/
def contentType (header : Text) : Text :=
  if header.isEmpty then []
  else
    let t := Text.lower (Text.strip ((Text.splitFirst? ';' header).map (·.1) |>.getD header))
    if t.count '/' = 1 then t else "text/plain".toList

def Response.type (r : Response) : Text := contentType r.declaredType

/-! ## Checks of a response -/

def invalidType (type : Text) (accepted : List Text) : Error :=
  .networkSecurity ("Invalid content type: ".toList ++ (if type.isEmpty then "(none)".toList else type)
    ++ ". Expected one of: ".toList ++ Text.quotedList accepted)

def declaredTooLarge (declared : Text) (limit : Value) : Error :=
  .networkSecurity ("Content-Length too large: ".toList ++ declared ++ " bytes (max: ".toList
    ++ limit.spoken ++ [')'])

def tooLarge (limit : Value) : Error :=
  .networkSecurity ("Response too large: exceeded ".toList ++ limit.spoken ++ " bytes".toList)

def requestFailed (url : Text) : Error :=
  .networkSecurity ("HTTP request failed for ".toList ++ url)

def tooManyRedirects (url : Text) : Error :=
  .networkSecurity ("Too many redirects fetching ".toList ++ url)

def disabled : Error :=
  .networkSecurity "Network access is globally disabled via MDTEX_DISABLE_NETWORK".toList

/-- The length that is declared, if it is written in digits. Not all digits are decimal ones, and a number is
made of those only. -/
def declaredLength (declared : Text) : Except Error (Option Nat) :=
  if declared.isEmpty || !declared.all Text.isAnyDigit then .ok none
  else if declared.all Text.isDecimal then .ok (some (Text.readDecimals declared))
  else .error (.badValue ("invalid literal for int() with base 10: ".toList ++ declared.quoted))

def declaresTooMuch (limit : Value) (declared : Text) : Except Error Bool :=
  (·.any limit.isExceededBy) <$> declaredLength declared

/-- Takes in a body piece by piece, as long as what was taken in is within the limit. -/
def receive (limit : Value) (taken : Bytes) : List Bytes → Except Error Bytes
  | [] => .ok taken
  | chunk :: chunks =>
    let taken := taken ++ chunk
    if limit.isExceededBy taken.length then .error (tooLarge limit) else receive limit taken chunks

/-- The body of the last answer, if it is accepted. -/
def accept (p : Policy) (url : Text) (r : Response) : Except Error Bytes :=
  if r.isSuccess = false then .error (requestFailed url)
  else if !p.accepted.isEmpty && !p.accepted.any (·.isPrefixOf r.type) then
    .error (invalidType r.type p.accepted)
  else match declaresTooMuch p.limit r.declared with
    | .error e => .error e
    | .ok true => .error (declaredTooLarge r.declared p.limit)
    | .ok false => receive p.limit [] r.chunks

/-! ## Fetching -/

/-- The outcome of a fetch: the requests that were made and what was reported. -/
structure Fetched (α : Type) where
  result : Except Error α
  requests : List Text := []
  notices : List Notice := []

namespace Fetched

variable {α : Type}

/-- Puts an earlier request and earlier notices in front. -/
def after (requests : List Text) (notices : List Notice) (f : Fetched α) : Fetched α :=
  { f with requests := requests ++ f.requests, notices := notices ++ f.notices }

end Fetched

/-- The number of requests for one URL: the first one and five that servers point to. -/
def mostRequests : Nat := 6

variable {m : Type → Type} [Monad m]

/-- Makes requests, beginning with one for `current`, until a server points nowhere else. -/
def follow (client : Client) (get : Text → m Answer) (p : Policy) (url : Text) :
    Nat → Text → m (Fetched Response)
  | 0, _ => return { result := .error (tooManyRedirects url) }
  | fuel + 1, current =>
    match check p.requireHttps current with
    | .error e => return { result := .error e }
    | .ok () => do
      let checked := checkNotices current
      match ← get current with
      | .unreachable => return ⟨.error (requestFailed url), [current], checked⟩
      | .response r =>
        let notices := checked ++ [.requestSent current r.status r.reason]
        match client.next? current r with
        | none => return ⟨.ok r, [current], notices⟩
        | some next => return (← follow client get p url fuel next).after [current] notices

theorem length_follow_requests (client : Client) (get : Text → Answer) (p : Policy) (url : Text)
    (fuel : Nat) (current : Text) :
    (Id.run (follow (m := Id) client get p url fuel current)).requests.length ≤ fuel := by
  induction fuel generalizing current with
  | zero => simp [follow]
  | succ n ih =>
    unfold follow
    split
    · simp
    · simp only [Id.run, pure, bind]
      split
      · simp
      · split
        · simp
        · rename_i next _
          have h := ih next
          simp only [Id.run] at h
          simp only [Fetched.after, List.length_append, List.length_singleton]
          omega

/-- Fetches a URL by means of a client. -/
def fetchBy (client : Client) (get : Text → m Answer) (p : Policy) (url : Text) : m (Fetched Bytes) :=
  if p.isDisabled then return { result := .error disabled }
  else match check p.requireHttps url with
    | .error e => return { result := .error e }
    | .ok () => do
      let f ← follow client get p url mostRequests (client.first url)
      let notices := checkNotices url ++ f.notices
      match f.result.bind (accept p url) with
      | .error e => return ⟨.error e, f.requests, notices⟩
      | .ok data => return ⟨.ok data, f.requests, notices ++ [.contentFetched data.length url]⟩

def fetchText (client : Client) (get : Text → m Answer) (p : Policy) (url : Text) : m (Fetched Text) := do
  let f ← fetchBy client get p url
  return { result := f.result.map Text.ofUtf8Lossy, requests := f.requests, notices := f.notices }

end Texdown.Web
