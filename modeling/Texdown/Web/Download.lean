import Texdown.Conversion
import Texdown.Web.Fetch

/-!
# Downloading images

Every different remote URL that has no registered image is fetched, and what comes back is
registered under a file name that is still free. A download that fails is reported and left out.
-/
namespace Texdown.Web

/-- Images after a download, the URLs that were added, and what was reported. An error other than a
failed download ends it. -/
structure Downloaded where
  registry : Figure.Registry
  added : List Text := []
  notices : List Notice := []
  error : Option Error := none

namespace Downloaded

def note (d : Downloaded) (ns : List Notice) : Downloaded := { d with notices := d.notices ++ ns }

def fail (d : Downloaded) (e : Error) : Downloaded := { d with error := some e }

def add (d : Downloaded) (url : Text) (data : Bytes) : Downloaded :=
  match Figure.nameFor url (some data) d.registry.filenames with
  | .error e => d.fail e
  | .ok filename =>
    match d.registry.register url filename data with
    | .error e => d.fail e
    | .ok registry =>
      { d with
        registry := registry
        added := d.added ++ [url]
        notices := d.notices ++ [.imageRegistered url filename data.length] }

end Downloaded

variable {m : Type → Type} [Monad m]

def fetchImage (client : Client) (get : Text → m Answer) (p : Policy) (url : Text) : m (Fetched Bytes) :=
  fetchBy client get { p with accepted := imageTypes } url

/-- Downloads one image with what fetches images, if it is remote and not registered. -/
def downloadOne (fetchOne : Text → m (Fetched Bytes)) (d : Downloaded) (url : Text) : m Downloaded :=
  if d.error.isSome || d.registry.contains url then return d
  else match isRemote url with
    | .error e => return d.fail e
    | .ok false => return d.note [.imageNotRemote url]
    | .ok true => do
      let f ← fetchOne url
      let d := d.note f.notices
      match f.result with
      | .ok data => return d.add url data
      | .error (.networkSecurity message) => return d.note [.downloadFailed url message]
      | .error e => return d.fail e

def downloadAll (fetchOne : Text → m (Fetched Bytes)) (d : Downloaded) : List Text → m Downloaded
  | [] => return d
  | url :: urls => do downloadAll fetchOne (← downloadOne fetchOne d url) urls

/-- Downloads the remote images among URLs into a registry, with what fetches images. -/
def downloadWith (fetchOne : Text → m (Fetched Bytes)) (registry : Figure.Registry) (urls : List Text) :
    m Downloaded := do
  let d ← downloadAll fetchOne { registry := registry } (distinct urls)
  match d.error with
  | some _ => return d
  | none => return d.note [.imagesDownloaded d.added.length]

def download (client : Client) (get : Text → m Answer) (p : Policy) (registry : Figure.Registry)
    (urls : List Text) : m Downloaded := downloadWith (fetchImage client get p) registry urls

end Texdown.Web
