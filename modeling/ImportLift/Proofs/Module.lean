-- The text of a module under the library's own layout. The layout is read
-- once, into a tree; rendering the tree copies each value to its place, so
-- the text is the same whatever the values hold.
import ImportLift.Module

namespace ImportLift

namespace Layout

/-! ## The values of a layout -/

theorem textOf_cons_self (name content : Text) (values : Values) :
    textOf ((name, .text content) :: values) name = content := by
  simp [textOf]

theorem textOf_cons_of_ne {name other : Text} (h : name ≠ other) (value : Value)
    (values : Values) : textOf ((other, value) :: values) name = textOf values name := by
  rw [textOf, List.lookup_cons, beq_eq_false_iff_ne.mpr h, textOf]

theorem itemsOf_cons_self (name : Text) (items : List Text) (values : Values) :
    itemsOf ((name, .list items) :: values) name = items := by
  simp [itemsOf]

theorem itemsOf_cons_of_ne {name other : Text} (h : name ≠ other) (value : Value)
    (values : Values) : itemsOf ((other, value) :: values) name = itemsOf values name := by
  rw [itemsOf, List.lookup_cons, beq_eq_false_iff_ne.mpr h, itemsOf]

/-! ## The library's own layout -/

/-- The layout of modules as a tree. Each line that holds only a tag is gone with its break. -/
def moduleTree : Layout :=
  .put "directive" <| .text "\nimport \x7b " <| .put "framework_bindings" <|
  .text " \x7d from '" <| .put "framework_path" <| .text "';\n" <|
  .each "statement" "import_statements" (.put "statement" <| .text "\n" .done) <| .text "\n" <|
  .each "script" "inline_scripts" (.put "script" <| .text "\n\n" .done) <|
  .text "const " <| .put "style_constant" <| .text " = html`" <| .put "style_preamble" <|
  .text "`;\n\n" <| .put "prefix" <| .put "template_accessor" <| .put "suffix" .done

theorem ofModules_eq : ofModules = moduleTree := by
  have hread : ofText? moduleLayoutText = some moduleTree := by decide +kernel
  rw [ofModules, hread, Option.getD_some]

end Layout

namespace Pieces

/-- The text that pieces make: the directive, the framework import, the other imports, the
scripts, the style constant, and the class with the template accessor set in. -/
def moduleText (p : Pieces) : Text :=
  "// @ts-check" ++ ['\n'] ++
    "import \x7b PolymerElement, html \x7d from '" ++ p.frameworkPath ++ "';" ++ ['\n'] ++
    (p.imports.flatMap fun i => i.statement ++ ['\n']) ++ ['\n'] ++
    (p.scripts.flatMap fun script => script ++ ['\n', '\n']) ++
    "const styleTemplate = html`" ++ p.preamble ++ "`;" ++ ['\n', '\n'] ++
    p.component.moduleHead ++ templateAccessor p.component.indent p.markup ++ p.component.after

/-- The library's own layout puts every piece in its place and changes none. -/
theorem render_ofModules (p : Pieces) : Layout.ofModules.render p.values = p.moduleText := by
  -- Literals become lists of characters first: names then differ by a look at a character.
  simp only [Layout.ofModules_eq, Layout.moduleTree, Layout.render, values, String.reduceToList]
  simp (disch := decide) only [Layout.textOf_cons_self, Layout.textOf_cons_of_ne,
    Layout.itemsOf_cons_self, Layout.itemsOf_cons_of_ne]
  delta moduleText styleConstant
  simp only [List.flatMap_map, String.reduceToList, List.cons_append, List.append_assoc,
    List.nil_append, List.append_nil]

theorem assemble_ofModules (p : Pieces) :
    p.assemble .ofModules = ⟨p.component.identity, p.moduleText⟩ := by
  rw [assemble, render_ofModules]

end Pieces

end ImportLift
