import ParishSite.Content.Failure
import ParishSite.Web.Host

/-! What can go wrong with the feed of videos, and what the client is told about it. -/

namespace ParishSite.Feed

inductive Fault
  | notConfigured
  | noUploads
  | refused (status : Nat) (reason : Option String) (message : String)
  | unreachable
  | badUrl (fault : Web.UrlFault)
deriving DecidableEq

namespace Fault

private def inBrackets : Option String → String
  | some reason => if reason = "" then "" else " (" ++ reason ++ ")"
  | none => ""

def message : Fault → String
  | notConfigured => "MISSING_YOUTUBE_CONFIG"
  | noUploads => "YouTube channel uploads playlist not found."
  | refused status reason message =>
    "YouTube API error " ++ toString status ++ inBrackets reason ++ ": " ++ message
  | unreachable => "Failed to fetch videos"
  | badUrl fault => "Invalid YouTube API URL: " ++ fault.message

def toFailure (fault : Fault) : Failure :=
  match fault with
  | notConfigured => .unavailable fault.message
  | noUploads | refused _ _ _ | unreachable => .badGateway fault.message
  | badUrl cause => .internal cause.message

end Fault
end ParishSite.Feed
