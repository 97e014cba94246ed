import SymbolAnnotations.Json
import SymbolAnnotations.Registry

/-!
# Printed stores and registries

Stores and registries are printed in one of two formats.  The text format has a
line for each entry, the path and the signature with a separator between them;
in a registry the package and a colon stand before the path.  The JSON format
is an object of the signatures, and for a registry an object of such objects.
-/

namespace SymbolAnnotations

/-- The formats for printing. -/
inductive OutputFormat where
  | text
  | json
deriving DecidableEq, Repr

/-- How to print.  `pretty` matters for JSON only, `separator` for text
only. -/
structure OutputConfig where
  format : OutputFormat := .text
  pretty : Bool := true
  separator : String := "\t"
deriving DecidableEq, Repr

namespace OutputConfig

/-- The layout of JSON. -/
def layout (config : OutputConfig) : Json.Layout :=
  if config.pretty then .pretty else .compact

end OutputConfig

namespace Store

/-- The line of an entry. -/
def textLine (label separator : String) (entry : String × String) : String :=
  label ++ entry.1 ++ separator ++ entry.2 ++ "\n"

/-- A line for each entry in path order, each behind the label. -/
def text (label separator : String) (store : Store) : String :=
  String.join (store.toList.map (textLine label separator))

/-- The object of the signatures. -/
def toJson (store : Store) : Json :=
  .object (store.toList.map fun entry => (entry.1, .text entry.2))

/-- The store as it is printed. -/
def render (store : Store) (config : OutputConfig) : String :=
  match config.format with
  | .text => store.text "" config.separator
  | .json => store.toJson.render config.layout

end Store

namespace Registry

/-- A line for each entry of each package, in package order. -/
def text (separator : String) (registry : Registry) : String :=
  String.join (registry.toList.map fun entry => entry.2.text (entry.1 ++ ":") separator)

/-- The object of the stores. -/
def toJson (registry : Registry) : Json :=
  .object (registry.toList.map fun entry => (entry.1, entry.2.toJson))

/-- The registry as it is printed. -/
def render (registry : Registry) (config : OutputConfig) : String :=
  match config.format with
  | .text => registry.text config.separator
  | .json => registry.toJson.render config.layout

end Registry
end SymbolAnnotations
