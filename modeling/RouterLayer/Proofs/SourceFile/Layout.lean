import Mathlib.Data.List.Forall2
import RouterLayer.Proofs.SourceFile.Procedure
import RouterLayer.Proofs.Text.Layout

/-!
The layout of generated files. As long as no name brings brackets or line breaks of its own, an import
is a line and a statement consists of lines that show something, each closing the brackets that it
opens; so the brackets of a file are nested, and its empty lines are those in front of the statements
(`SourceFile.isLaidOut`).
-/

set_option autoImplicit false

namespace RouterLayer

open Text (IsFlat Span Rows Keeps layout)

section Members

structure Procedure.Flat (p : Procedure) : Prop where
  key : p.key.text.IsFlat
  baseProcedure : p.baseProcedure.IsFlat
  resultName : p.resultName.text.IsFlat
  clientAccessor : p.clientAccessor.IsFlat
  clientMethod : p.clientMethod.IsFlat
  inputType : p.inputType.IsFlat
  callArguments : ∀ names ∈ p.callArguments, ∀ name ∈ names, name.IsFlat
  eventChannel : ∀ channel ∈ p.eventChannel, channel.IsFlat

structure Subscription.Flat (s : Subscription) : Prop where
  key : s.key.IsFlat
  baseProcedure : s.baseProcedure.IsFlat
  payloadType : s.payloadType.IsFlat
  channel : s.channel.IsFlat
  listener : s.listener.IsFlat

def Endpoint.Flat : Endpoint → Prop
  | .procedure p => p.Flat
  | .subscription s => s.Flat

def RouterEntry.Flat (e : RouterEntry) : Prop := e.key.IsFlat ∧ e.router.IsFlat

theorem Text.layout_key {key : Text} (h : key.IsFlat) (due t : Text) :
    layout (due, .start) ("  " ++ (key ++ (": " ++ t))) = layout (due, .shown) t := by
  obtain ⟨row, hrow⟩ := h.exists_layout due .blank
  change layout (due, .blank) (key ++ _) = _
  rw [Text.layout_append, hrow, Option.bind_some]
  cases row <;> rfl

namespace Procedure

variable {p : Procedure}

theorem rows_opening (h : p.Flat) : Rows p.opening := by
  intro due
  simp only [opening, List.append_assoc]
  rw [Text.layout_key h.key, h.baseProcedure.span.skip]
  rfl

theorem rows_inputLine (h : p.Flat) : Rows p.inputLine := by
  intro due
  unfold inputLine
  split
  · simp only [List.append_assoc]
    change layout (")" ++ due, .shown) (p.inputType ++ _) = _
    rw [h.inputType.span.skip]
    rfl
  · rfl

theorem layout_resolverLine {parameter : Text} (h : parameter.IsFlat) (due : Text) :
    layout (due, .start) (p.resolverLine parameter) = some ("\x7d)" ++ due, .start) := by
  have hname : p.category.name.IsFlat := by cases p.category <;> decide
  simp only [resolverLine, List.append_assoc]
  change layout (due, .shown) (p.category.name ++ _) = _
  rw [hname.span.skip]
  change layout ("\x7d))" ++ due, .shown) (parameter ++ _) = _
  rw [h.span.skip]
  rfl

theorem span_callExpression (h : p.Flat) : Span p.callExpression := by
  have hpart {names : List Text} (hnames : ∀ name ∈ names, name.IsFlat) :
      ∀ part ∈ names.map inputPart, part.IsFlat := by
    intro part hpart
    obtain ⟨name, hname, rfl⟩ := List.mem_map.mp hpart
    exact ((hnames name hname).append (by decide)).append (hnames name hname)
  unfold callExpression
  split
  · exact (by decide : IsFlat "input").span
  · exact fun _ => rfl
  · next names _ hnames =>
    intro due
    simp only [List.append_assoc]
    change layout ("\x7d" ++ due, .shown) (List.intercalate ", " _ ++ _) = _
    rw [(Text.IsFlat.intercalate (by decide) (hpart (h.callArguments names hnames))).span.skip]
    rfl

theorem rows_callLine (h : p.Flat) : Rows (p.callLine p.callExpression) := by
  intro due
  simp only [callLine, List.append_assoc]
  change layout (due, .shown) (p.resultName.text ++ _) = _
  rw [h.resultName.span.skip]
  change layout (due, .shown) (p.clientAccessor ++ _) = _
  rw [h.clientAccessor.span.skip]
  change layout (due, .shown) (p.clientMethod ++ _) = _
  rw [h.clientMethod.span.skip]
  change layout (")" ++ due, .shown) (p.callExpression ++ _) = _
  rw [(span_callExpression h).skip]
  rfl

theorem rows_emitLine (h : p.Flat) : Rows p.emitLine := by
  intro due
  unfold emitLine
  split
  · next channel hchannel =>
    have hflat := h.eventChannel channel (Option.mem_filter_iff.mp hchannel).1
    simp only [List.append_assoc]
    change layout (")" ++ due, .shown) (channel ++ _) = _
    rw [hflat.span.skip]
    change layout (")" ++ due, .shown) (p.resultName.text ++ _) = _
    rw [h.resultName.span.skip]
    rfl
  · rfl

theorem layout_ending (h : p.Flat) (due : Text) :
    layout ("\x7d)" ++ due, .start) p.ending = some (due, .start) := by
  simp only [ending, List.append_assoc]
  rw [(rows_emitLine h).skip]
  change layout ("\x7d)" ++ due, .shown) (p.resultName.text ++ _) = _
  rw [h.resultName.span.skip]
  rfl

theorem rows_render (h : p.Flat) : Rows p.render := by
  have hparameter : p.parameter.IsFlat := by
    unfold parameter
    split <;> decide
  intro due
  simp only [render_eq, List.append_assoc]
  rw [(rows_opening h).skip, (rows_inputLine h).skip, Text.layout_append,
    layout_resolverLine hparameter, Option.bind_some, (rows_callLine h).skip, layout_ending h]

end Procedure

theorem Subscription.rows_render {s : Subscription} (h : s.Flat) : Rows s.render := by
  intro due
  unfold render
  simp only [List.append_assoc]
  rw [Text.layout_key h.key, h.baseProcedure.span.skip]
  -- each `change` runs the scan to the next name, with the brackets that are due there
  change layout (")" ++ due, .shown) (s.payloadType ++ _) = _
  rw [h.payloadType.span.skip]
  change layout ("\x7d))" ++ due, .shown) (s.listener ++ _) = _
  rw [h.listener.span.skip]
  change layout (")\x7d))" ++ due, .shown) (s.payloadType ++ _) = _
  rw [h.payloadType.span.skip]
  change layout (")\x7d))" ++ due, .shown) (s.channel ++ _) = _
  rw [h.channel.span.skip]
  change layout (")\x7d))" ++ due, .shown) (s.listener ++ _) = _
  rw [h.listener.span.skip]
  change layout (")\x7d\x7d))" ++ due, .shown) (s.channel ++ _) = _
  rw [h.channel.span.skip]
  change layout (")\x7d\x7d))" ++ due, .shown) (s.listener ++ _) = _
  rw [h.listener.span.skip]
  rfl

theorem Endpoint.rows_render {e : Endpoint} (h : e.Flat) : Rows e.render := by
  cases e with
  | procedure p => exact Procedure.rows_render h
  | subscription s => exact Subscription.rows_render h

theorem RouterEntry.rows_render {e : RouterEntry} (h : e.Flat) : Rows e.render := by
  intro due
  unfold render
  simp only [List.append_assoc]
  rw [Text.layout_key h.1, h.2.span.skip]
  rfl

end Members

section Statements

/-- The names of the statement are flat, and the literal of its rules closes its own brackets. A
statement without a text leaves nothing between two empty lines, so it has no place here. -/
def Statement.Flat : Statement → Prop
  | .start contextType options => contextType.IsFlat ∧ (options.getD []).IsFlat
  | .middleware name handler => name.IsFlat ∧ ∀ h ∈ handler, h.IsFlat
  | .baseProcedure name middlewares => name.IsFlat ∧ ∀ m ∈ middlewares, m.IsFlat
  | .router symbol endpoints entries =>
    symbol.IsFlat ∧ (∀ e ∈ endpoints, e.Flat) ∧ ∀ e ∈ entries, e.Flat
  | .policy symbol contextType rules =>
    symbol.IsFlat ∧ contextType.IsFlat ∧ Span (rulesLiteral rules)
  | .blank _ => False

theorem span_passThrough : Span passThrough := fun _ => rfl

theorem span_useCall {middleware : Text} (h : middleware.IsFlat) : Span (useCall middleware) := by
  intro due
  simp only [useCall, List.append_assoc]
  change layout (")" ++ due, .shown) (middleware ++ _) = _
  rw [h.span.skip]
  rfl

theorem Statement.rows_render {s : Statement} (h : s.Flat) : Rows s.render := by
  intro due
  cases s with
  | start contextType options =>
    simp only [render, List.append_assoc]
    change layout (due, .shown) (contextType ++ _) = _
    rw [h.1.span.skip]
    change layout (")" ++ due, .shown) (options.getD [] ++ _) = _
    rw [h.2.span.skip]
    rfl
  | middleware name handler =>
    have hhandler : Span ((filled handler).getD passThrough) := by
      cases hfilled : filled handler with
      | none => exact span_passThrough
      | some text => exact (h.2 text (Option.mem_filter_iff.mp hfilled).1).span
    simp only [render, List.append_assoc]
    change layout (due, .shown) (name ++ _) = _
    rw [h.1.span.skip]
    change layout (")" ++ due, .shown) ((filled handler).getD passThrough ++ _) = _
    rw [hhandler.skip]
    rfl
  | baseProcedure name middlewares =>
    have hcalls : Span (middlewares.flatMap useCall) :=
      .flatMap fun m hm => span_useCall (h.2 m hm)
    simp only [render, List.append_assoc]
    change layout (due, .shown) (name ++ _) = _
    rw [h.1.span.skip]
    change layout (due, .shown) (middlewares.flatMap useCall ++ _) = _
    rw [hcalls.skip]
    rfl
  | router symbol endpoints entries =>
    have hendpoints : Rows (endpoints.flatMap (·.render)) :=
      .flatMap fun e he => Endpoint.rows_render (h.2.1 e he)
    have hentries : Rows (entries.flatMap (·.render)) :=
      .flatMap fun e he => RouterEntry.rows_render (h.2.2 e he)
    simp only [render, List.append_assoc]
    change layout (due, .shown) (symbol ++ _) = _
    rw [h.1.span.skip]
    change layout ("\x7d)" ++ due, .start) (endpoints.flatMap (·.render) ++ _) = _
    rw [hendpoints.skip, hentries.skip]
    rfl
  | policy symbol contextType rules =>
    simp only [render, List.append_assoc]
    change layout (due, .shown) (symbol ++ _) = _
    rw [h.1.span.skip]
    change layout (due, .shown) (contextType ++ _) = _
    rw [h.2.1.span.skip]
    change layout (")" ++ due, .shown) (rulesLiteral rules ++ _) = _
    rw [h.2.2.skip]
    rfl
  | blank kind => exact h.elim

theorem Statement.render_ne_nil {s : Statement} (h : s.Flat) : s.render ≠ [] := by
  cases s with
  | blank kind => exact h.elim
  | _ =>
    unfold render
    exact List.append_ne_nil_of_right_ne_nil _ (by decide)

def Statement.ShownAs (s : Statement) (block : List Text) : Prop :=
  block ≠ [] ∧ s.render = Text.ofLines block ∧ ∀ l ∈ block, l.IsLine

theorem Statement.exists_shownAs {s : Statement} (h : s.Flat) : ∃ block, s.ShownAs block := by
  obtain ⟨block, hblock, hlines⟩ := (rows_render h).lines
  refine ⟨block, ?_, hblock, hlines⟩
  rintro rfl
  exact render_ne_nil h hblock

end Statements

section Imports

structure Import.Flat (i : Import) : Prop where
  module : i.module.IsFlat
  named : ∀ name ∈ i.named, name.IsFlat
  whole : ∀ name ∈ i.whole, name.IsFlat
  default : ∀ name ∈ i.default, name.IsFlat

def Import.ShownAs (i : Import) (line : Text) : Prop :=
  i.line = line ++ "\n" ∧ line.IsLine ∧ line.getLast? = some (.char ';')

namespace Import

variable {i : Import}

theorem binding_cases (h : i.Flat) :
    i.binding.IsFlat ∨ ∃ names : Text, names.IsFlat ∧ i.binding = "\x7b " ++ names ++ " \x7d" := by
  have hnames : IsFlat (List.intercalate ", " i.named) := .intercalate (by decide) h.named
  unfold binding
  split
  · next name hname =>
    exact .inl (.append (by decide) (h.whole name (Option.mem_filter_iff.mp hname).1))
  · next name _ hname => exact .inl (h.default name (Option.mem_filter_iff.mp hname).1)
  · exact .inr ⟨_, hnames, rfl⟩

theorem span_binding (h : i.Flat) : Span i.binding := by
  rcases binding_cases h with hflat | ⟨names, hnames, hbinding⟩
  · exact hflat.span
  · intro due
    rw [hbinding, List.append_assoc]
    change layout ("\x7d" ++ due, .shown) (names ++ _) = _
    rw [hnames.span.skip]
    rfl

theorem rows_line (h : i.Flat) : Rows i.line := by
  have htype : IsFlat (Text.ofString (if i.typeOnly then "type " else "")) := by split <;> decide
  intro due
  unfold line
  simp only [List.append_assoc]
  change layout (due, .shown) (Text.ofString (if i.typeOnly then "type " else "") ++ _) = _
  rw [htype.span.skip, (span_binding h).skip]
  change layout (due, .shown) (i.module ++ _) = _
  rw [h.module.span.skip]
  rfl

theorem exists_shownAs (h : i.Flat) : ∃ line, i.ShownAs line := by
  have hbinding : ∀ c ∈ i.binding, Script.isLineBreak c = false := by
    rcases binding_cases h with hflat | ⟨names, hnames, hbinding⟩
    · exact hflat.no_break
    · rw [hbinding, List.forall_mem_append, List.forall_mem_append]
      exact ⟨⟨by decide, hnames.no_break⟩, by decide⟩
  have htype : IsFlat (Text.ofString (if i.typeOnly then "type " else "")) := by split <;> decide
  refine ⟨"import " ++ (if i.typeOnly then "type " else "") ++ i.binding ++ " from '" ++ i.module ++
    "';", ?_, ⟨⟨.char 'i', ?_, by decide⟩, ?_⟩, ?_⟩
  · unfold line
    simp only [List.append_assoc]
    rfl
  · simp only [List.append_assoc]
    exact List.mem_append_left _ (by decide)
  · simp only [List.forall_mem_append]
    exact ⟨⟨⟨⟨⟨by decide, htype.no_break⟩, hbinding⟩, by decide⟩, h.module.no_break⟩, by decide⟩
  · exact List.getLast?_append_of_ne_nil _ (by decide)

end Import

end Imports

section Files

theorem exists_forall₂ {α β : Type} {R : α → β → Prop} {xs : List α} (h : ∀ x ∈ xs, ∃ y, R x y) :
    ∃ ys, List.Forall₂ R xs ys := by
  induction xs with
  | nil => exact ⟨[], .nil⟩
  | cons x xs ih =>
    obtain ⟨⟨y, hy⟩, hxs⟩ := List.forall_mem_cons.mp h
    obtain ⟨ys, hys⟩ := ih hxs
    exact ⟨y :: ys, .cons hy hys⟩

theorem forall_mem_of_forall₂ {α β : Type} {R : α → β → Prop} {good : β → Prop} {xs : List α}
    {ys : List β} (h : List.Forall₂ R xs ys) (hgood : ∀ x y, R x y → good y) :
    ∀ y ∈ ys, good y := by
  have hflip : List.Forall₂ (fun y x => good y ∧ R x y) ys xs :=
    .flip (h.imp fun x y hxy => ⟨hgood x y hxy, hxy⟩)
  exact ((List.forall₂_and_left ys xs).mp hflip).1

namespace SourceFile

/-- Brackets are nested. Line by line, the text has an import on each line, an empty line and the
lines of a statement, and so on; all lines but these empty ones show something, and the last one
ends in a line break. -/
structure IsLaidOut (f : SourceFile) : Prop where
  nested : f.render.IsNested
  lines : ∃ imports blocks, imports ≠ [] ∧ blocks ≠ [] ∧
    List.Forall₂ Import.ShownAs f.imports imports ∧
    List.Forall₂ Statement.ShownAs f.statements blocks ∧
    Text.splitAll '\n' f.render = imports ++ blocks.flatMap ([] :: ·) ++ [[]]

def apart (s : Statement) : Text := "\n" ++ s.render

structure Flat (f : SourceFile) : Prop where
  imports : ∀ i ∈ f.imports, i.Flat
  statements : ∀ s ∈ f.statements, s.Flat
  imports_ne_nil : f.imports ≠ []
  statements_ne_nil : f.statements ≠ []

variable {f : SourceFile}

theorem Flat.render_eq (h : f.Flat) :
    f.render = f.imports.flatMap (·.line) ++ f.statements.flatMap apart := by
  have hstatements (statements : List Statement) :
      renderStatements true statements = statements.flatMap apart := by
    induction statements with
    | nil => rfl
    | cons s statements ih =>
      rw [renderStatements, ih, List.flatMap_cons]
      rfl
  have hopened : (!f.imports.isEmpty) = true := by
    simpa using h.imports_ne_nil
  unfold render
  rw [hopened, hstatements]

theorem Flat.isNested (h : f.Flat) : f.render.IsNested := by
  have hstatements {statements : List Statement} (hflat : ∀ s ∈ statements, s.Flat) :
      Text.IsNested (statements.flatMap apart) := by
    induction statements with
    | nil => rfl
    | cons s statements ih =>
      obtain ⟨hs, hrest⟩ := List.forall_mem_cons.mp hflat
      have hs : Text.IsNested (apart s) := (Statement.rows_render hs).isNested
      exact hs.append (ih hrest)
  have himports : Rows (f.imports.flatMap (·.line)) :=
    .flatMap fun i hi => Import.rows_line (h.imports i hi)
  rw [h.render_eq]
  exact himports.isNested.append (hstatements h.statements)

theorem flatMap_line {imports : List Import} {lines : List Text}
    (h : List.Forall₂ Import.ShownAs imports lines) :
    imports.flatMap (·.line) = Text.ofLines lines := by
  induction h with
  | nil => rfl
  | cons hline _ ih => rw [List.flatMap_cons, ih, hline.1, Text.ofLines_cons]

theorem flatMap_render {statements : List Statement} {blocks : List (List Text)}
    (h : List.Forall₂ Statement.ShownAs statements blocks) :
    statements.flatMap apart = Text.ofLines (blocks.flatMap ([] :: ·)) := by
  induction h with
  | nil => rfl
  | cons hblock _ ih =>
    rw [List.flatMap_cons, ih, apart, hblock.2.1, List.flatMap_cons, Text.ofLines_append,
      Text.ofLines_cons, List.nil_append]

theorem Flat.isLaidOut (h : f.Flat) : f.IsLaidOut := by
  obtain ⟨imports, himports⟩ := exists_forall₂ fun i hi => Import.exists_shownAs (h.imports i hi)
  obtain ⟨blocks, hblocks⟩ :=
    exists_forall₂ fun s hs => Statement.exists_shownAs (h.statements s hs)
  refine ⟨h.isNested, imports, blocks, ?_, ?_, himports, hblocks, ?_⟩
  · rintro rfl
    exact h.imports_ne_nil (List.length_eq_zero_iff.mp himports.length_eq)
  · rintro rfl
    exact h.statements_ne_nil (List.length_eq_zero_iff.mp hblocks.length_eq)
  · have htext : f.render = Text.ofLines (imports ++ blocks.flatMap ([] :: ·)) ++ [] := by
      rw [h.render_eq, flatMap_line himports, flatMap_render hblocks, Text.ofLines_append,
        List.append_nil]
    have hlines : ∀ l ∈ imports ++ blocks.flatMap ([] :: ·), CodePoint.char '\n' ∉ l := by
      refine List.forall_mem_append.mpr
        ⟨forall_mem_of_forall₂ himports fun _ _ hline => hline.2.1.newline_not_mem, fun l hl => ?_⟩
      obtain ⟨block, hblock, hl⟩ := List.mem_flatMap.mp hl
      rcases List.mem_cons.mp hl with rfl | hl
      · exact List.not_mem_nil
      · exact (forall_mem_of_forall₂ hblocks (fun _ _ h => h.2.2) block hblock l hl).newline_not_mem
    rw [htext, Text.splitAll_ofLines hlines]
    rfl

end SourceFile

end Files

end RouterLayer
