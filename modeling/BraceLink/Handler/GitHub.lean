import BraceLink.Handler.Platform

/-!
# GitHub mentions

The payload `@login|text|link`. The handler also gives plain links to a GitHub profile the avatar of
the user, unless the first segment of the path is a route of the site.
-/

namespace BraceLink.Handler

/-- The category of GitHub mentions. -/
def githubKind : Text := "github-at"

def githubUrl : Text := "https://github.com"

/-- First segments of paths that are no logins. -/
def reservedRoutes : List Text :=
  ["discussions", "issues", "notifications", "pulls", "settings", "sponsor", "sponsors"]

def profileUrl (login : Text) : Text := githubUrl ++ '/' :: login

def avatarUrl (login : Text) : Text := profileUrl login ++ ".png"

def githubDraft (payload : Text) : Option Draft :=
  match mention? payload with
  | none => none
  | some login =>
    if ':' ∈ login then none
    else
      some
        { link := Payload.firstNonEmpty [Payload.part 2 payload] (profileUrl login)
          text := some (Payload.firstNonEmpty [Payload.part 1 payload] (Text.upper login))
          kind := some githubKind
          image := some (avatarUrl login) }

def isLoginChar (c : Char) : Bool := c.isAlphanum || c = '_' || c = '-'

/-- The URL without a leading `http://` or `https://` in small letters. -/
def withoutWebScheme (url : Text) : Text :=
  match Text.dropPrefix? "https://" url with
  | some rest => rest
  | none => (Text.dropPrefix? "http://" url).getD url

/-- The first segment of the path of a GitHub link: a run of login characters that is followed by the
end, by a single line end, or by a slash. -/
def githubLogin? (link : Text) : Option Text :=
  (Text.dropPrefix? "github.com/" (withoutWebScheme link)).bind fun path =>
    let login := path.takeWhile isLoginChar
    match path.drop login.length with
    | [] => some login
    | ['\n'] => some login
    | '/' :: _ => some login
    | _ => none

/-- The record with the avatar of the user it links to, if it shows only the icon of the site. -/
def repairAvatar (reserved : List Text) (record : Record) : Option Record :=
  if record.kind = githubKind then none
  else
    match githubLogin? record.link with
    | none => none
    | some login =>
      if login.isEmpty || reserved.contains login || !Text.isPrefix Link.faviconPrefix record.image then none
      else some { record with image := avatarUrl login }

def github (reserved : List Text := reservedRoutes) : Handler :=
  pure "github-at" "GitHubAtHandler" githubDraft (repairAvatar reserved)

end BraceLink.Handler
