import Sandboxes.Json.Basic
import Sandboxes.Variant

/-!
# Comparison of the variants

What speaks for and against each variant, with the variant that is chosen by default.
-/

namespace Sandboxes

/-- The description of a variant. -/
structure Description where
  title : String
  summary : String
  features : List String
  advantages : List String
  limitations : List String
  deriving DecidableEq, Repr

namespace Description

/-- The descriptions of the variants. -/
def of : Variant → Description
  | .legacy => {
      title := "Legacy Docker Sandbox"
      summary := "Original sandbox implementation"
      features := ["File system operations", "Shell command execution",
        "Browser automation (CDP)", "VNC remote desktop", "Process management"]
      advantages := ["Stable and tested", "Full compatibility", "Lower resource usage"]
      limitations := ["Limited tool ecosystem", "No built-in development tools",
        "Older technology stack"] }
  | .aio => {
      title := "AIO Sandbox"
      summary := "Enhanced sandbox with MCP protocol support"
      features := ["All legacy features", "MCP (Model Context Protocol) support",
        "Chrome DevTools Protocol", "Built-in Jupyter notebook", "VSCode Server integration",
        "Enhanced development tools", "Modern container environment"]
      advantages := ["Rich tool ecosystem", "Standard protocols (MCP, CDP)",
        "Better development experience", "Active development"]
      limitations := ["Higher resource usage", "Newer technology (less tested)",
        "Larger container image"] }

/-- The document of a description. -/
def toJson (d : Description) : Json :=
  .obj [("advantages", Json.ofStrings d.advantages), ("description", .str d.summary),
    ("features", Json.ofStrings d.features), ("limitations", Json.ofStrings d.limitations),
    ("name", .str d.title)]

end Description

/-- The document that compares the variants. -/
def comparison (default : Variant) (aioAvailable : Bool) : Json :=
  .obj [("aio", (Description.of .aio).toJson), ("aio_available", .bool aioAvailable),
    ("current_default", .str default.name), ("legacy", (Description.of .legacy).toJson)]

end Sandboxes
