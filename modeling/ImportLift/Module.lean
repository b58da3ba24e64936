-- The text of a module, put together by a layout from the pieces of a
-- component: the framework import, the other imports, the scripts of the
-- document, the style constant, and the class with a template accessor set in
-- behind the identity accessor.
import ImportLift.Component
import ImportLift.Import
import ImportLift.Layout

namespace ImportLift

/-- A finished module. -/
structure Module where
  identity : Text
  text : Text
deriving DecidableEq, Repr

/-- All that the text of a module is made of. -/
structure Pieces where
  frameworkPath : Text
  imports : List Import
  /-- The scripts of the document that go before the class. -/
  scripts : List Text
  /-- The content of the style constant. -/
  preamble : Text
  component : Component
  markup : Text
deriving DecidableEq, Repr

/-- The name of the constant that holds the style. -/
def styleConstant : Text := "styleTemplate"

/-- The accessor that returns the markup, as a literal that starts with the
style. It is indented one step deeper than its class member. -/
def templateAccessor (indent markup : Text) : Text :=
  let step : Text := if indent.head? = some '\t' then "\t" else "    "
  "\n\n" ++ indent ++ "static get template() \x7b\n" ++
    indent ++ step ++ "return html`" ++ placeholder styleConstant ++ escapeLiteral markup ++ "`;\n" ++
    indent ++ "\x7d"

/-- The layout text of modules, unless a directory brings another one. -/
def moduleLayoutText : Text :=
  "\x7b\x7b directive \x7d\x7d\n" ++
  "import \x7b \x7b\x7b framework_bindings \x7d\x7d \x7d from '\x7b\x7b framework_path \x7d\x7d';\n" ++
  "\x7b% for statement in import_statements %\x7d\n" ++
  "\x7b\x7b statement \x7d\x7d\n" ++
  "\x7b% endfor %\x7d\n" ++
  "\n" ++
  "\x7b% for script in inline_scripts %\x7d\n" ++
  "\x7b\x7b script \x7d\x7d\n" ++
  "\n" ++
  "\x7b% endfor %\x7d\n" ++
  "const \x7b\x7b style_constant \x7d\x7d = html`\x7b\x7b style_preamble \x7d\x7d`;\n" ++
  "\n" ++
  "\x7b\x7b prefix \x7d\x7d\x7b\x7b template_accessor \x7d\x7d\x7b\x7b suffix \x7d\x7d\n"

/-- The layout of modules, unless a directory brings another one. -/
def Layout.ofModules : Layout := (Layout.ofText? moduleLayoutText).getD .done

namespace Pieces

/-- The values that a layout can name. -/
def values (p : Pieces) : Layout.Values :=
  [("directive", .text "// @ts-check"),
    ("framework_bindings", .text "PolymerElement, html"),
    ("framework_path", .text p.frameworkPath),
    ("import_statements", .list (p.imports.map Import.statement)),
    ("inline_scripts", .list p.scripts),
    ("style_constant", .text styleConstant),
    ("style_preamble", .text p.preamble),
    ("prefix", .text p.component.moduleHead),
    ("template_accessor", .text (templateAccessor p.component.indent p.markup)),
    ("suffix", .text p.component.after)]

/-- The module that the pieces make by a layout. -/
def assemble (p : Pieces) (layout : Layout) : Module :=
  ⟨p.component.identity, layout.render p.values⟩

end Pieces

end ImportLift
