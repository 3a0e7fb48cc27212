import Sandboxes.Comparison
import Sandboxes.Service
import Sandboxes.Terminal.Screen

/-!
# Pages

What is shown of sandboxes, browsers, health checks and the comparison of the variants. Every page is
a list of lines with an empty line in front.
-/

namespace Sandboxes.Terminal.Screen

/-! ### Lines -/

/-- Lines of text, each with its end. -/
def page (lines : List String) : String :=
  String.join (lines.map (· ++ "\n"))

/-- Indented text behind a caption, which takes twelve columns. -/
def entry (caption text : String) : String :=
  let gap := List.replicate (12 - (caption.length + 1)) ' '
  "  " ++ caption ++ ":" ++ String.ofList gap ++ text

/-- A line across the screen. -/
def rule (s : Screen) : String :=
  s.paint .faint (String.ofList (List.replicate 50 '━'))

/-- Lines under a title, between lines across the screen. -/
def framed (s : Screen) (title : String) (lines : List String) : String :=
  page (["", s.rule, s.paint .title ("   " ++ title), s.rule] ++ lines ++ [s.rule])

/-! ### Sandboxes and browsers -/

/-- A sandbox and its addresses. -/
def sandbox (s : Screen) (h : Handle) : String :=
  s.framed ("Sandbox " ++ h.id)
    [entry "Type" (s.ink .cyan h.variant.name), entry "API" (s.ink .cyan h.interface.base),
      entry "VNC" (s.ink .cyan h.vncUrl), entry "CDP" (s.ink .cyan h.cdpUrl)]

/-- A browser and its version. -/
def browser (s : Screen) (b : Browser) (v : BrowserVersion) : String :=
  s.framed "Browser"
    [entry "CDP" (s.ink .cyan b.address), entry "Browser" v.browser, entry "Protocol" v.protocol,
      entry "WebSocket" (s.ink .cyan v.websocket)]

/-! ### Health -/

/-- A time in thousandths of a second, rounded to a whole number of them. -/
def millis (x : Double) : String :=
  (if x.negative then "-" else "") ++ toString x.rounded ++ "ms"

/-- What a health check of a variant found. -/
def health (s : Screen) (v : Variant) (h : Health) : String :=
  let verdict :=
    if h.isHealthy then s.ink .green "✓" ++ " " ++ v.name ++ " sandbox is healthy"
    else s.ink .red "✗" ++ " " ++ v.name ++ " sandbox is unhealthy"
  let fault := match h.fault with
    | some words => [entry "Error" (s.ink .red words)]
    | none => []
  page (["", verdict, entry "Time" (s.ink .cyan (millis h.millis))] ++ fault)

/-! ### The comparison -/

/-- The texts of an array, whatever else is in it. -/
def texts (j : Json) : List String :=
  (j.items?.getD []).filterMap Json.string?

/-- A list of points with a mark in front of each. -/
def points (heading mark : String) (j : Json) : List String :=
  ["  " ++ heading ++ ":"] ++ (texts j).map fun point => "    " ++ mark ++ " " ++ point

/-- The description of a variant in a comparison. -/
def description (s : Screen) (v : Variant) (comparison : Json) : List String :=
  let entry := comparison.get v.name
  let name := ((entry.get "name").string?).getD v.name
  ["", s.paint .title name ++ " " ++ s.paint .faint ("(" ++ v.name ++ ")"),
    "  " ++ ((entry.get "description").string?).getD ""] ++
  points "Features" (s.ink .cyan "•") (entry.get "features") ++
  points "Advantages" (s.ink .green "+") (entry.get "advantages") ++
  points "Limitations" (s.ink .red "-") (entry.get "limitations")

/-- A comparison of the variants. -/
def comparison (s : Screen) (document : Json) : String :=
  let default := ((document.get "current_default").string?).getD "unknown"
  let available := ((document.get "aio_available").bool?).getD false
  page (Variant.all.flatMap (s.description · document) ++
    ["", entry "Default" (s.ink .cyan default),
      entry "AIO" (if available then s.ink .green "available" else s.ink .red "disabled")])

end Sandboxes.Terminal.Screen
