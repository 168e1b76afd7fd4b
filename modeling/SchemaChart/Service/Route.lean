import SchemaChart.Text.Upper

/-!
# Routes

A path leads to at most one route, and each route has its methods; a route that answers
`GET` answers `HEAD` as well, and every route answers `OPTIONS`. A path that leads
nowhere is tried once more with every run of slashes taken as one; if it leads
somewhere then, the request is sent there.
-/

namespace SchemaChart.Service

inductive Method
  | get
  | head
  | options
  | post
  deriving DecidableEq, Repr

namespace Method

def name : Method → Text
  | .get => "GET"
  | .head => "HEAD"
  | .options => "OPTIONS"
  | .post => "POST"

/-- The method of a name, in any case. -/
def ofName? (name : Text) : Option Method :=
  [get, head, options, post].find? fun m => m.name = name.upper

end Method

inductive Route
  | analyzeImage
  | health
  | parse
  | asset
  deriving DecidableEq, Repr

namespace Route

def all : List Route := [analyzeImage, health, parse, asset]

/-- A route's path; that of an asset ends with the asset's own. -/
def pattern : Route → Text
  | .analyzeImage => "/api/analyze-image"
  | .health => "/api/health"
  | .parse => "/api/parse"
  | .asset => "/static/<path:filename>"

def methods : Route → List Method
  | .analyzeImage | .parse => [.options, .post]
  | .health | .asset => [.get, .head, .options]

/-- What comes before the path of an asset. -/
def assetRoot : Text := "/static/"

/-- The path of an asset is not empty and does not begin with a slash, and no line feed
stands behind its first character. -/
def isAssetPath : Text → Bool
  | [] => false
  | c :: rest => c ≠ '/' && !rest.contains '\n'

/-- The route of a path. Paths are matched exactly. -/
def ofPath? (path : Text) : Option Route :=
  if (Text.after? assetRoot path).any isAssetPath then some asset
  else [analyzeImage, health, parse].find? fun r => r.pattern = path

def method? (r : Route) (name : Text) : Option Method :=
  (Method.ofName? name).filter r.methods.contains

end Route

/-- Takes every run of slashes as one. -/
def mergeSlashes : Text → Text
  | [] => []
  | [c] => [c]
  | c :: next :: rest =>
    if c = '/' && next = '/' then mergeSlashes (next :: rest)
    else c :: mergeSlashes (next :: rest)

/-- What a method and a path lead to. -/
inductive Lookup
  | found (route : Route) (method : Method)
  | moved (path : Text)
  | notAllowed
  | notFound
  deriving DecidableEq, Repr

def Lookup.of (method path : Text) : Lookup :=
  match Route.ofPath? path with
  | some route =>
    match route.method? method with
    | some m => .found route m
    | none => .notAllowed
  | none =>
    match Route.ofPath? (mergeSlashes path) with
    | none => .notFound
    | some route =>
      if (route.method? method).isSome then .moved (mergeSlashes path) else .notAllowed

end SchemaChart.Service
