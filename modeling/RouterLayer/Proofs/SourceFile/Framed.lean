import RouterLayer.Proofs.Text.Framed
import RouterLayer.SourceFile.Render

/-!
The text of a router tells what it was made of. The optional lines of a procedure begin differently
from the lines that follow them (`inputLine_inj`, `emitLine_inj`), and a procedure, a subscription
and an entry part right behind their first two names, so the endpoints and the entries can be read
off one after the other (`render_router_inj`).
-/

set_option autoImplicit false

namespace RouterLayer

open Text (IsIdentifier append_ne_append)

def Json.IsIdentifier (value : Json) : Prop := ∃ s, value = .str s ∧ s.IsIdentifier

theorem Json.IsIdentifier.text {value : Json} (h : value.IsIdentifier) :
    value.text.IsIdentifier := by
  obtain ⟨s, rfl, hs⟩ := h
  exact hs

theorem Json.IsIdentifier.text_inj {value value' : Json} (h : value.IsIdentifier)
    (h' : value'.IsIdentifier) (heq : value.text = value'.text) : value = value' := by
  obtain ⟨s, rfl, -⟩ := h
  obtain ⟨s', rfl, -⟩ := h'
  exact congrArg Json.str heq

theorem Category.isIdentifier_name (c : Category) : c.name.IsIdentifier := by
  cases c <;> decide

theorem Category.name_inj {c c' : Category} (h : c.name = c'.name) : c = c' := by
  revert h
  cases c <;> cases c' <;> decide

theorem Category.input_ne_name (c : Category) (s t : Text) :
    "    .input(" ++ s ≠ "    ." ++ (c.name ++ t) := by
  rw [← List.append_assoc]
  apply append_ne_append
  cases c <;> decide

theorem Text.quoted_inj {channel other s t : Text} (hchannel : CodePoint.char '\'' ∉ channel)
    (hother : CodePoint.char '\'' ∉ other)
    (h : channel ++ ("'" ++ s) = other ++ (("'" : Text) ++ t)) : channel = other ∧ s = t := by
  have hcut {channel s : Text} (hchannel : CodePoint.char '\'' ∉ channel) :
      Text.cut? '\'' (channel ++ ("'" ++ s)) = some (channel, s) :=
    Text.cut?_eq_some.mpr ⟨rfl, hchannel⟩
  have hsame := hcut (s := s) hchannel
  rw [h, hcut hother] at hsame
  simpa [eq_comm] using hsame

theorem Text.quote_comma : ("', " : Text) = "'" ++ ", " := rfl

namespace Procedure

/-- The names are identifiers; the input type may be left out, and so may the arguments and the
channel. The channel is a text in quotes, which it must not end itself. -/
structure Legible (p : Procedure) : Prop where
  key : p.key.IsIdentifier
  baseProcedure : p.baseProcedure.IsIdentifier
  resultName : p.resultName.IsIdentifier
  clientAccessor : p.clientAccessor.IsIdentifier
  clientMethod : p.clientMethod.IsIdentifier
  inputType : p.inputType = [] ∨ p.inputType.IsIdentifier
  callArguments : ∀ names ∈ p.callArguments, ∀ name ∈ names, name.IsIdentifier
  eventChannel : ∀ channel ∈ p.eventChannel, channel ≠ [] ∧ CodePoint.char '\'' ∉ channel

variable {p q : Procedure} {s t : Text}

theorem inputLine_of_nil (h : p.inputType = []) : p.inputLine = [] := by
  simp [inputLine, takesInput, h]

theorem inputLine_of_ne_nil (h : p.inputType ≠ []) :
    p.inputLine = "    .input(" ++ (p.inputType ++ ")\n") := by
  simp [inputLine, takesInput, h]

/-- The line with the input is told from the line with the category by its first word. -/
theorem inputLine_inj (hp : p.Legible) (hq : q.Legible)
    (h : p.inputLine ++ ("    ." ++ (p.category.name ++ ("(async (\x7b ctx" ++ s))) =
      q.inputLine ++ ("    ." ++ (q.category.name ++ ("(async (\x7b ctx" ++ t)))) :
    p.inputType = q.inputType ∧ p.category = q.category ∧ s = t := by
  have hcategory {c c' : Category} (h : "    ." ++ (c.name ++ ("(async (\x7b ctx" ++ s)) =
      (("    ." : Text) ++ (c'.name ++ ("(async (\x7b ctx" ++ t)))) : c = c' ∧ s = t := by
    obtain ⟨hname, hrest⟩ := c.isIdentifier_name.peel c'.isIdentifier_name (by decide)
      (List.append_cancel_left h)
    exact ⟨Category.name_inj hname, hrest⟩
  rcases hp.inputType with hpt | hpt <;> rcases hq.inputType with hqt | hqt
  · rw [inputLine_of_nil hpt, inputLine_of_nil hqt] at h
    exact ⟨hpt.trans hqt.symm, hcategory h⟩
  · rw [inputLine_of_nil hpt, inputLine_of_ne_nil hqt.1, List.append_assoc] at h
    exact absurd h.symm (p.category.input_ne_name _ _)
  · rw [inputLine_of_ne_nil hpt.1, inputLine_of_nil hqt, List.append_assoc] at h
    exact absurd h (q.category.input_ne_name _ _)
  · rw [inputLine_of_ne_nil hpt.1, inputLine_of_ne_nil hqt.1] at h
    simp only [List.append_assoc, List.append_cancel_left_eq] at h
    obtain ⟨htype, hrest⟩ := hpt.peel hqt (by decide) h
    exact ⟨htype, hcategory hrest⟩

theorem emitLine_of_none (h : p.eventChannel = none) : p.emitLine = [] := by
  simp [emitLine, filled, h]

theorem emitLine_of_some {channel : Text} (h : p.eventChannel = some channel)
    (hne : channel ≠ []) : p.emitLine =
      "      ee.emit('" ++ (channel ++ ("'" ++ (", " ++ (p.resultName.text ++ ");\n")))) := by
  have hfilled : filled (some channel) = some channel := by simp [filled, hne]
  rw [emitLine, h, hfilled, Text.quote_comma]
  simp only [List.append_assoc]

/-- The line that publishes is told from the one that returns by its first letter. -/
theorem emitLine_inj (hp : p.Legible) (hq : q.Legible)
    (h : p.emitLine ++ ("      return " ++ s) = q.emitLine ++ ("      return " ++ t)) :
    p.eventChannel = q.eventChannel := by
  have hmixed (s t : Text) : ("      ee.emit('" : Text) ++ s ≠ "      return " ++ t :=
    append_ne_append (by decide)
  cases hpc : p.eventChannel with
  | none =>
    cases hqc : q.eventChannel with
    | none => rfl
    | some other =>
      obtain ⟨hne, -⟩ := hq.eventChannel other hqc
      rw [emitLine_of_none hpc, emitLine_of_some hqc hne, List.append_assoc] at h
      exact absurd h.symm (hmixed _ _)
  | some channel =>
    obtain ⟨hne, hquote⟩ := hp.eventChannel channel hpc
    cases hqc : q.eventChannel with
    | none =>
      rw [emitLine_of_none hqc, emitLine_of_some hpc hne, List.append_assoc] at h
      exact absurd h (hmixed _ _)
    | some other =>
      obtain ⟨hne', hquote'⟩ := hq.eventChannel other hqc
      rw [emitLine_of_some hpc hne, emitLine_of_some hqc hne'] at h
      simp only [List.append_assoc, List.append_cancel_left_eq] at h
      rw [(Text.quoted_inj hquote hquote' h).1]

def nextPart (name : Text) : Text := ", " ++ inputPart name

theorem framed_nextPart : Framed IsIdentifier nextPart := by
  intro name other hname hother s t h
  simp only [nextPart, inputPart, List.append_assoc, List.append_cancel_left_eq] at h
  obtain ⟨rfl, hrest⟩ := hname.peel hother (by decide) h
  exact ⟨rfl, List.append_cancel_left hrest⟩

theorem unopened_nextPart (s : Text) : Unopened IsIdentifier nextPart (" \x7d" ++ s) := by
  intro name _ t
  rw [nextPart, List.append_assoc]
  exact append_ne_append (by decide)

theorem callExpression_of_none (h : p.callArguments = none) : p.callExpression = "input" := by
  simp [callExpression, h]

theorem callExpression_of_nil (h : p.callArguments = some []) : p.callExpression = "" := by
  simp [callExpression, h]

theorem callExpression_of_cons {name : Text} {names : List Text}
    (h : p.callArguments = some (name :: names)) : p.callExpression =
      "\x7b " ++ (name ++ (": input." ++ (name ++ (names.flatMap nextPart ++ " \x7d")))) := by
  have hparts : nextPart = fun name => ", " ++ inputPart name := rfl
  simp [callExpression, h, Text.intercalate_cons, List.flatMap_map, inputPart, hparts]

/-- The three kinds of arguments open differently. -/
theorem callExpression_inj (hp : p.Legible) (hq : q.Legible)
    (h : p.callExpression ++ (");\n" ++ s) = q.callExpression ++ (");\n" ++ t)) :
    p.callArguments = q.callArguments ∧ s = t := by
  have hwhole (s t : Text) : ("input" : Text) ++ s ≠ ");\n" ++ t := append_ne_append (by decide)
  have hparts (s t : Text) : ("input" : Text) ++ s ≠ "\x7b " ++ t := append_ne_append (by decide)
  have hnone (s t : Text) : ("\x7b " : Text) ++ s ≠ ");\n" ++ t := append_ne_append (by decide)
  have hpn := hp.callArguments
  have hqn := hq.callArguments
  -- of the nine cases, the six on different kinds fail at the first characters
  rcases hpa : p.callArguments with _ | _ | ⟨name, names⟩ <;>
    rcases hqa : q.callArguments with _ | _ | ⟨other, others⟩
  · rw [callExpression_of_none hpa, callExpression_of_none hqa] at h
    simp only [List.append_cancel_left_eq] at h
    exact ⟨rfl, h⟩
  · rw [callExpression_of_none hpa, callExpression_of_nil hqa] at h
    exact absurd h (hwhole _ _)
  · rw [callExpression_of_none hpa, callExpression_of_cons hqa, List.append_assoc] at h
    exact absurd h (hparts _ _)
  · rw [callExpression_of_nil hpa, callExpression_of_none hqa] at h
    exact absurd h.symm (hwhole _ _)
  · rw [callExpression_of_nil hpa, callExpression_of_nil hqa] at h
    simp only [List.append_cancel_left_eq] at h
    exact ⟨rfl, h⟩
  · rw [callExpression_of_nil hpa, callExpression_of_cons hqa, List.append_assoc] at h
    exact absurd h.symm (hnone _ _)
  · rw [callExpression_of_cons hpa, callExpression_of_none hqa, List.append_assoc] at h
    exact absurd h.symm (hparts _ _)
  · rw [callExpression_of_cons hpa, callExpression_of_nil hqa, List.append_assoc] at h
    exact absurd h (hnone _ _)
  · rw [callExpression_of_cons hpa, callExpression_of_cons hqa] at h
    simp only [List.append_assoc, List.append_cancel_left_eq] at h
    obtain ⟨hname, hnames⟩ := List.forall_mem_cons.mp (hpn _ hpa)
    obtain ⟨hother, hothers⟩ := List.forall_mem_cons.mp (hqn _ hqa)
    obtain ⟨rfl, hrest⟩ := hname.peel hother (by decide) h
    obtain ⟨rfl, hend⟩ := framed_nextPart.flatMap hnames hothers (unopened_nextPart _)
      (unopened_nextPart _) (List.append_cancel_left hrest)
    simp only [List.append_cancel_left_eq] at hend
    exact ⟨rfl, hend⟩

theorem framed_render : Framed Legible render := by
  intro p q hp hq s t h
  unfold render at h
  simp only [List.append_assoc] at h
  -- `h` loses one name after the other from its left
  obtain ⟨hkey, h⟩ := hp.key.text.peel hq.key.text (by decide) (List.append_cancel_left h)
  obtain ⟨hbase, h⟩ := hp.baseProcedure.peel hq.baseProcedure (by decide) h
  obtain ⟨htype, hcategory, h⟩ := inputLine_inj hp hq h
  have htakes : p.takesInput = q.takesInput := by rw [takesInput, takesInput, htype]
  rw [htakes] at h
  replace h := List.append_cancel_left (List.append_cancel_left (List.append_cancel_left h))
  obtain ⟨hresult, h⟩ := hp.resultName.text.peel hq.resultName.text (by decide) h
  obtain ⟨haccessor, h⟩ := hp.clientAccessor.peel hq.clientAccessor (by decide) h
  obtain ⟨hmethod, h⟩ := hp.clientMethod.peel hq.clientMethod (by decide) h
  obtain ⟨harguments, h⟩ := callExpression_inj hp hq h
  have hchannel := emitLine_inj hp hq h
  have hemit : p.emitLine = q.emitLine := by rw [emitLine, emitLine, hchannel, hresult]
  rw [hemit, hresult] at h
  simp only [List.append_cancel_left_eq] at h
  have hkey := hp.key.text_inj hq.key hkey
  have hresult := hp.resultName.text_inj hq.resultName hresult
  refine ⟨?_, h⟩
  cases p
  cases q
  simp_all

end Procedure

namespace Subscription

structure Legible (s : Subscription) : Prop where
  key : s.key.IsIdentifier
  baseProcedure : s.baseProcedure.IsIdentifier
  payloadType : s.payloadType.IsIdentifier
  channel : CodePoint.char '\'' ∉ s.channel
  listener : s.listener.IsIdentifier

theorem framed_render : Framed Legible render := by
  intro p q hp hq s t h
  unfold render at h
  simp only [List.append_assoc] at h
  obtain ⟨hkey, h⟩ := hp.key.peel hq.key (by decide) (List.append_cancel_left h)
  obtain ⟨hbase, h⟩ := hp.baseProcedure.peel hq.baseProcedure (by decide) h
  obtain ⟨hpayload, h⟩ := hp.payloadType.peel hq.payloadType (by decide) (List.append_cancel_left h)
  obtain ⟨hlistener, h⟩ := hp.listener.peel hq.listener (by decide) (List.append_cancel_left h)
  rw [hpayload, hlistener] at h
  replace h := List.append_cancel_left (List.append_cancel_left (List.append_cancel_left h))
  rw [Text.quote_comma] at h
  simp only [List.append_assoc] at h
  obtain ⟨hchannel, h⟩ := Text.quoted_inj hp.channel hq.channel h
  rw [hchannel] at h
  simp only [List.append_cancel_left_eq] at h
  refine ⟨?_, h⟩
  cases p
  cases q
  simp_all

end Subscription

def RouterEntry.Legible (e : RouterEntry) : Prop := e.key.IsIdentifier ∧ e.router.IsIdentifier

theorem RouterEntry.framed_render : Framed Legible render := by
  intro e e' he he' s t h
  unfold render at h
  simp only [List.append_assoc] at h
  obtain ⟨hkey, h⟩ := he.1.peel he'.1 (by decide) (List.append_cancel_left h)
  obtain ⟨hrouter, h⟩ := he.2.peel he'.2 (by decide) h
  refine ⟨?_, h⟩
  cases e
  cases e'
  simp_all

section Members

def memberText (key name rest : Text) : Text := "  " ++ (key ++ (": " ++ (name ++ rest)))

/-- Two members part where their names end, if not before. -/
theorem memberText_ne {key key' name name' l l' : Text} (hkey : key.IsIdentifier)
    (hkey' : key'.IsIdentifier) (hname : name.IsIdentifier) (hname' : name'.IsIdentifier)
    (hl : l.cuts = true) (hl' : l'.cuts = true)
    (hne : l.isPrefixOf l' = false ∧ l'.isPrefixOf l = false) (s t : Text) :
    memberText key name (l ++ s) ≠ memberText key' name' (l' ++ t) := by
  intro h
  obtain ⟨-, h⟩ := hkey.peel hkey' (by decide) (List.append_cancel_left h)
  obtain ⟨-, h⟩ := Text.eq_of_append_cuts hname.2 hname'.2 (Text.cuts_append hl s)
    (Text.cuts_append hl' t) h
  exact append_ne_append hne h

theorem Procedure.render_append (p : Procedure) (s : Text) : ∃ rest, p.render ++ s =
    memberText p.key.text p.baseProcedure ("\n" ++ rest) := by
  unfold render memberText
  simp only [List.append_assoc, List.append_cancel_left_eq]
  exact ⟨_, rfl⟩

theorem Subscription.render_append (s : Subscription) (t : Text) : ∃ rest, s.render ++ t =
    memberText s.key s.baseProcedure (".subscription(() =>\n" ++ rest) := by
  unfold render memberText
  simp only [List.append_assoc, List.append_cancel_left_eq]
  exact ⟨_, rfl⟩

theorem RouterEntry.render_append (e : RouterEntry) (s : Text) :
    e.render ++ s = memberText e.key e.router (",\n" ++ s) := by
  unfold render memberText
  simp only [List.append_assoc]

namespace Endpoint

def Legible : Endpoint → Prop
  | .procedure p => p.Legible
  | .subscription s => s.Legible

theorem framed_render : Framed Legible render := by
  have hmixed {p : Procedure} {r : Subscription} (hp : p.Legible) (hr : r.Legible) (s t : Text) :
      p.render ++ s ≠ r.render ++ t := by
    obtain ⟨rest, hrest⟩ := p.render_append s
    obtain ⟨rest', hrest'⟩ := r.render_append t
    rw [hrest, hrest']
    exact memberText_ne hp.key.text hr.key hp.baseProcedure hr.baseProcedure (by decide)
      (by decide) (by decide) _ _
  intro e e' he he' s t h
  cases e with
  | procedure p =>
    cases e' with
    | procedure q =>
      obtain ⟨rfl, hst⟩ := Procedure.framed_render he he' s t h
      exact ⟨rfl, hst⟩
    | subscription r => exact absurd h (hmixed he he' s t)
  | subscription r =>
    cases e' with
    | procedure q => exact absurd h.symm (hmixed he' he t s)
    | subscription r' =>
      obtain ⟨rfl, hst⟩ := Subscription.framed_render he he' s t h
      exact ⟨rfl, hst⟩

theorem Legible.names {e : Endpoint} (h : e.Legible) :
    e.key.text.IsIdentifier ∧ e.baseProcedure.IsIdentifier := by
  cases e with
  | procedure p => exact ⟨h.key.text, h.baseProcedure⟩
  | subscription r => exact ⟨h.key, h.baseProcedure⟩

theorem render_append (e : Endpoint) (s : Text) :
    ∃ l ∈ (["\n", ".subscription(() =>\n"] : List Text), ∃ rest,
      e.render ++ s = memberText e.key.text e.baseProcedure (l ++ rest) := by
  cases e with
  | procedure p => exact ⟨"\n", by simp, p.render_append s⟩
  | subscription r => exact ⟨".subscription(() =>\n", by simp, r.render_append s⟩

theorem render_ne_entry {e : Endpoint} (he : e.Legible) {entry : RouterEntry}
    (hentry : entry.Legible) (s t : Text) : e.render ++ s ≠ entry.render ++ t := by
  have hparts : ∀ l ∈ (["\n", ".subscription(() =>\n"] : List Text), l.cuts = true ∧
      l.isPrefixOf ",\n" = false ∧ List.isPrefixOf (",\n" : Text) l = false := by decide
  obtain ⟨l, hl, rest, hrest⟩ := e.render_append s
  obtain ⟨hcuts, hne⟩ := hparts l hl
  rw [hrest, entry.render_append]
  exact memberText_ne he.names.1 hentry.1 he.names.2 hentry.2 hcuts (by decide) hne _ _

end Endpoint

theorem memberText_ne_end (key name rest s : Text) :
    memberText key name rest ≠ "\x7d);\n" ++ s := append_ne_append (by decide)

theorem RouterEntry.unopened_end (s : Text) : Unopened Legible render ("\x7d);\n" ++ s) := by
  intro e _ t
  rw [e.render_append]
  exact memberText_ne_end _ _ _ s

theorem Endpoint.unopened_entries {entries : List RouterEntry} (h : ∀ e ∈ entries, e.Legible)
    (s : Text) : Unopened Legible render (entries.flatMap (·.render) ++ ("\x7d);\n" ++ s)) := by
  intro e he t
  cases entries with
  | nil =>
    obtain ⟨l, -, rest, hrest⟩ := e.render_append t
    rw [hrest]
    exact memberText_ne_end _ _ _ s
  | cons entry entries =>
    rw [List.flatMap_cons, List.append_assoc]
    exact render_ne_entry he (h entry List.mem_cons_self) _ _

end Members

def Statement.IsLegibleRouter : Statement → Prop
  | .router symbol endpoints entries =>
    symbol.IsIdentifier ∧ (∀ e ∈ endpoints, e.Legible) ∧ ∀ e ∈ entries, e.Legible
  | _ => False

theorem Statement.render_router (symbol : Text) (endpoints : List Endpoint)
    (entries : List RouterEntry) : (Statement.router symbol endpoints entries).render =
      "export const " ++ (symbol ++ (" = t.router(\x7b\n" ++ (endpoints.flatMap (·.render) ++
        (entries.flatMap (·.render) ++ "\x7d);\n")))) := by
  unfold render
  simp only [List.append_assoc]

theorem Statement.eq_of_render {s s' : Statement} (h : s.IsLegibleRouter)
    (h' : s'.IsLegibleRouter) (heq : s.render = s'.render) : s = s' := by
  cases s with
  | router symbol endpoints entries =>
    cases s' with
    | router symbol' endpoints' entries' =>
      obtain ⟨hsymbol, hendpoints, hentries⟩ := h
      obtain ⟨hsymbol', hendpoints', hentries'⟩ := h'
      rw [render_router, render_router] at heq
      rw [← List.append_nil ("\x7d);\n" : Text)] at heq
      obtain ⟨rfl, hmembers⟩ := hsymbol.peel hsymbol' (by decide) (List.append_cancel_left heq)
      obtain ⟨rfl, hbehind⟩ := Endpoint.framed_render.flatMap hendpoints hendpoints'
        (Endpoint.unopened_entries hentries _) (Endpoint.unopened_entries hentries' _) hmembers
      obtain ⟨rfl, -⟩ := RouterEntry.framed_render.flatMap hentries hentries'
        (RouterEntry.unopened_end _) (RouterEntry.unopened_end _) hbehind
      rfl
    | _ => cases h'
  | _ => cases h

/-- Two routers that stand alone in their files, or behind the same imports, are the same if their
texts are. -/
theorem SourceFile.render_router_inj {path path' : Text} {imports : List Import}
    {s s' : Statement} (h : s.IsLegibleRouter) (h' : s'.IsLegibleRouter) :
    (SourceFile.mk path imports [s]).render = (SourceFile.mk path' imports [s']).render ↔
      s = s' := by
  constructor
  · intro heq
    unfold render at heq
    replace heq := List.append_cancel_left heq
    simp only [renderStatements, List.append_nil, List.append_cancel_left_eq] at heq
    exact Statement.eq_of_render h h' heq
  · rintro rfl
    rfl

def Procedure.deletion (arguments : Option (List Text)) : Procedure where
  key := .str "delete"
  category := .mutation
  baseProcedure := "protectedProcedure"
  resultName := .str "deletedPost"
  clientAccessor := "post"
  clientMethod := "delete"
  inputType := "PostDeleteSchema"
  callArguments := arguments
  eventChannel := some "post:delete"

theorem Procedure.legible_deletion {arguments : Option (List Text)}
    (h : ∀ names ∈ arguments, ∀ name ∈ names, name.IsIdentifier) :
    (deletion arguments).Legible where
  key := ⟨"delete", rfl, by decide⟩
  baseProcedure := (by decide : ("protectedProcedure" : Text).IsIdentifier)
  resultName := ⟨"deletedPost", rfl, by decide⟩
  clientAccessor := (by decide : ("post" : Text).IsIdentifier)
  clientMethod := (by decide : ("delete" : Text).IsIdentifier)
  inputType := .inr (by decide : ("PostDeleteSchema" : Text).IsIdentifier)
  callArguments := h
  eventChannel := fun
    | _, rfl => by decide

def Statement.posts (arguments : Option (List Text)) : Statement :=
  .router "postRouter" [.procedure (.deletion arguments),
    .subscription ⟨"onDelete", "publicProcedure", "Post", "post:delete", "onDelete"⟩]
    [⟨"user", "userRouter"⟩]

theorem Statement.isLegibleRouter_posts {arguments : Option (List Text)}
    (h : ∀ names ∈ arguments, ∀ name ∈ names, name.IsIdentifier) :
    (posts arguments).IsLegibleRouter := by
  refine ⟨by decide, List.forall_mem_cons.mpr ⟨Procedure.legible_deletion h, ?_⟩, ?_⟩
  · simp only [List.forall_mem_singleton]
    exact ⟨by decide, by decide, by decide, by decide, by decide⟩
  · simp only [List.forall_mem_singleton]
    exact ⟨by decide, by decide⟩

theorem SourceFile.render_posts_ne :
    (Statement.posts none).IsLegibleRouter ∧
      (Statement.posts (some ["where"])).IsLegibleRouter ∧
      (SourceFile.mk "Post.router.ts" [] [Statement.posts none]).render ≠
        (SourceFile.mk "Post.router.ts" [] [Statement.posts (some ["where"])]).render := by
  have hwhole : (Statement.posts none).IsLegibleRouter :=
    Statement.isLegibleRouter_posts (by simp)
  have hpart : (Statement.posts (some ["where"])).IsLegibleRouter :=
    Statement.isLegibleRouter_posts (by decide)
  exact ⟨hwhole, hpart, fun heq => nomatch (render_router_inj hwhole hpart).mp heq⟩

end RouterLayer
