import Gleaner.Bindings.Basic
import Gleaner.Text.Blank
import Gleaner.Url.Host

/-!
# Matching bindings with URLs

A record belongs to a URL when its pattern occurs in the URL or in its host, or the host
occurs in the pattern. A record without a pattern belongs to none.
-/

set_option autoImplicit false

namespace Gleaner

def matchesUrl (pattern url : String) : Except Url.UrlFault Bool :=
  if pattern = "" then .ok false
  else do
    let host ← Url.host url
    return Text.occursIn pattern url || Text.occursIn pattern host || Text.occursIn host pattern

def PageBindings.matchesUrl (b : PageBindings) (url : String) : Except Url.UrlFault Bool :=
  Gleaner.matchesUrl b.urlPattern url

def PageBindings.ageHours (now : Float) (b : PageBindings) : Float :=
  (now - b.updatedAt) / 3600

/-- The age of a record at some time; no time, and the time zero, stand for the present. -/
def PageBindings.ageHoursAt (present : Float) (time : Option Float) (b : PageBindings) : Float :=
  match time with
  | some time => b.ageHours (if time == 0 then present else time)
  | none => b.ageHours present

end Gleaner
