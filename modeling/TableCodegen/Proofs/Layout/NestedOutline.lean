import TableCodegen.Proofs.Layout.Nesting
import TableCodegen.Proofs.Layout.WellNested

/-!
# Outlines of well-nested lines

The layout finds the blocks of a document by the shapes of lines. Of a document that is put together from
well-nested lines the outline is known beforehand: an opening line that starts with `type` goes with the lines
up to its closing line into one block, and all lines around it stay lines.

Results:

* `WellNested.staysOpen`, `WellNested.closes`: the counter of a block over well-nested lines.
* `Lays.quiet`, `Lays.block`, `Lays.lines`: the outline of a document part by part.
* `exists_layOut`: the layout succeeds when the formatter takes the blocks.
-/

namespace TableCodegen

open TableCodegen.Text

/-! ## The counter of a block -/

theorem StaysOpen.append {u v : List (List Char)} {depth middle final : Nat} (hu : StaysOpen depth u middle)
    (hv : StaysOpen middle v final) : StaysOpen depth (u ++ v) final := by
  induction hu with
  | nil depth => exact hv
  | cons h _ ih => exact .cons h (ih hv)

theorem StaysOpen.closes {ls : List (List Char)} {last : List Char} {depth final : Nat}
    (h : StaysOpen depth ls final) (hlast : depthBehind final last = 0) : Closes depth (ls ++ [last]) := by
  induction h with
  | nil depth => exact .last hlast
  | cons h _ ih => exact .more h (ih hlast)

theorem QuietLine.depthBehind {line : List Char} (h : QuietLine line) (depth : Nat) :
    depthBehind depth line = depth := by
  have hopen : endsOpen (codePart line) = false := h.code.opens
  have hcloser : isLoneCloser (codePart line) = false := h.code.closer
  simp [TableCodegen.depthBehind, hopen, hcloser]

theorem OpeningLine.depthBehind {b : Bracket} {line : List Char} (h : OpeningLine b line) (depth : Nat) :
    depthBehind depth line = depth + 1 := by
  simp [TableCodegen.depthBehind, h.opens, h.closer]

theorem ClosingLine.depthBehind {b : Bracket} {line : List Char} (h : ClosingLine b line) (depth : Nat) :
    depthBehind depth line = depth - 1 := by
  simp [TableCodegen.depthBehind, h.opens, h.closer]

/-- Within a bracket, well-nested lines leave as many brackets open as before them. -/
theorem WellNested.staysOpen {ls : List (List Char)} (h : WellNested ls) {depth : Nat} (hdepth : depth ≠ 0) :
    StaysOpen depth ls depth := by
  induction h generalizing depth with
  | nil => exact .nil depth
  | quiet h _ ih =>
    have hline := h.depthBehind depth
    refine .cons (by rw [hline]; exact hdepth) ?_
    rw [hline]
    exact ih hdepth
  | enclosed hopen _ hclose _ ihinner ih =>
    have hfirst := hopen.depthBehind depth
    have hlast := hclose.depthBehind (depth + 1)
    refine .cons (by rw [hfirst]; omega) ?_
    rw [hfirst]
    refine (ihinner (by omega)).append (.cons (by rw [hlast]; omega) ?_)
    rw [hlast, Nat.add_sub_cancel]
    exact ih hdepth

/-- The lines between an opening and a closing line are one block with them. -/
theorem WellNested.closes {b : Bracket} {first last : List Char} {body : List (List Char)} (h : WellNested body)
    (hopen : OpeningLine b first) (hclose : ClosingLine b last) : Closes 0 (first :: (body ++ [last])) := by
  have hfirst := hopen.depthBehind 0
  refine .more (by rw [hfirst]; decide) ?_
  rw [hfirst]
  exact (h.staysOpen (by decide)).closes (hclose.depthBehind 1)

/-! ## Outlines -/

/-- The layout takes these parts behind other lines. -/
def Lays (around : Surroundings) (parts : List Part) : Prop :=
  ∃ pieces rows final, Laid around parts pieces rows final

namespace Lays

theorem nil (around : Surroundings) : Lays around [] :=
  ⟨_, _, _, .done around⟩

/-- A line that opens no block, and what comes behind it with some other memory of the lines. -/
theorem line {around : Surroundings} {raw : List Char} {parts : List Part} (hopen : ¬ Opens around raw)
    (hrest : ∀ behind, behind = around ∨ behind = around.behindBlank ∨ behind = around.behind (trim raw) →
      Lays behind parts) : Lays around (.line raw :: parts) := by
  by_cases hraw : trim raw = []
  · cases hblank : around.afterBlank with
    | true =>
      obtain ⟨pieces, rows, final, h⟩ := hrest around (Or.inl rfl)
      exact ⟨_, _, _, .again hraw hblank h⟩
    | false =>
      obtain ⟨pieces, rows, final, h⟩ := hrest around.behindBlank (Or.inr (Or.inl rfl))
      exact ⟨_, _, _, .blank hraw hblank h⟩
  · obtain ⟨pieces, rows, final, h⟩ := hrest (around.behind (trim raw)) (Or.inr (Or.inr rfl))
    exact ⟨_, _, _, .text hraw hopen h⟩

theorem opensBlock_eq_false {code : List Char} (h : endsOpen code = false) : opensBlock code = false := by
  rw [opensBlock, h, Bool.and_false]

/-- Lines that open no block, at the end of a document. -/
theorem lines {ls : List (List Char)} (h : ∀ line ∈ ls, opensBlock (codePart line) = false)
    (around : Surroundings) : Lays around (ls.map .line) := by
  induction ls generalizing around with
  | nil => exact .nil around
  | cons raw ls ih =>
    obtain ⟨hraw, hls⟩ := List.forall_mem_cons.mp h
    refine .line (fun hopen => ?_) fun behind _ => ih hls behind
    rw [hopen.2] at hraw
    cases hraw

/-- Quiet lines leave the indentation as it is. -/
theorem quiet {ls : List (List Char)} (h : ∀ line ∈ ls, QuietLine line) {around : Surroundings}
    {parts : List Part} (hrest : ∀ behind : Surroundings, behind.indent = around.indent → Lays behind parts) :
    Lays around (ls.map .line ++ parts) := by
  induction ls generalizing around with
  | nil => exact hrest around rfl
  | cons raw ls ih =>
    obtain ⟨hraw, hls⟩ := List.forall_mem_cons.mp h
    have hnone : opensBlock (codePart raw) = false := opensBlock_eq_false hraw.code.opens
    refine .line (fun hopen => by rw [hopen.2] at hnone; cases hnone) fun behind hbehind => ih hls ?_
    have hindent : behind.indent = around.indent := by
      have hopen : endsOpen (codePart raw) = false := hraw.code.opens
      have hcloser : isLoneCloser (codePart raw) = false := hraw.code.closer
      rcases hbehind with rfl | rfl | rfl
      · rfl
      · rfl
      · simp [Surroundings.behind, Surroundings.depthOf, hopen, hcloser]
    intro more hmore
    exact hrest more (hmore.trans hindent)

/-- A block in front of other parts. -/
theorem block {b : Bracket} {first last : List Char} {body : List (List Char)} {parts : List Part}
    {around : Surroundings} (hindent : around.indent = 0) (hword : "type".toList <+: codePart first)
    (hopen : OpeningLine b first) (hbody : WellNested body) (hclose : ClosingLine b last)
    (hrest : ∀ behind : Surroundings, behind.indent = 0 → Lays behind parts) :
    Lays around (.block first (body ++ [last]) :: parts) := by
  have hopens : Opens around first := by
    refine ⟨hindent, ?_⟩
    rw [opensBlock, isSome_dropHead?_iff.mpr hword, hopen.opens]
    rfl
  obtain ⟨pieces, rows, final, h⟩ := hrest around.behindBlock hindent
  exact ⟨_, _, _, .block hopens (hbody.closes hopen hclose) h⟩

end Lays

/-! ## The layout of an outline -/

theorem exists_mapM_text {formatter : SourceFormatter} (pieces : List Piece)
    (h : ∀ source ∈ pieces.filterMap Piece.source?, ∃ formatted, formatter source = .ok formatted) :
    ∃ texts, pieces.mapM (·.text formatter) = .ok texts := by
  have hpiece : ∀ piece ∈ pieces, ∃ text, piece.text formatter = .ok text := by
    intro piece hpiece
    cases piece with
    | blank => exact ⟨_, rfl⟩
    | line depth text => exact ⟨_, rfl⟩
    | block source =>
      obtain ⟨formatted, hformat⟩ := h (String.ofList source) (List.mem_filterMap.mpr ⟨_, hpiece, rfl⟩)
      refine ⟨withFinalFeed (withoutKeyword formatted.toList), ?_⟩
      show formatBlock formatter source = _
      rw [formatBlock, hformat]
  clear h
  induction pieces with
  | nil => exact ⟨[], rfl⟩
  | cons piece pieces ih =>
    obtain ⟨⟨text, htext⟩, hpieces⟩ := List.forall_mem_cons.mp hpiece
    obtain ⟨texts, htexts⟩ := ih hpieces
    exact ⟨text :: texts, by rw [List.mapM_cons, htext, htexts]; rfl⟩

/-- The layout of an accepted document with shaped lines, when the formatter takes the blocks of its
outline. -/
theorem exists_layOut {document : String} {parts : List Part} (hlays : Lays {} parts)
    (hparts : parts.flatMap Part.lines = lines document.toList)
    (hlines : ∀ line ∈ lines document.toList, ShapedLine line)
    (hvalid : RouteValidator.delimiter document = .ok ()) {formatter : SourceFormatter}
    (hformat : ∀ source ∈ parts.filterMap Part.source?, ∃ formatted, formatter source = .ok formatted) :
    ∃ out text, layOut formatter document = .ok out ∧ NestedLayout formatter document out parts text := by
  obtain ⟨pieces, rows, final, hlaid⟩ := hlays
  have hpieces : TableCodegen.pieces document.toList = pieces := by
    rw [TableCodegen.pieces, ← hparts, hlaid.piecesFrom_eq]
  rw [← hlaid.sources_eq] at hformat
  obtain ⟨texts, htexts⟩ := exists_mapM_text _ hformat
  have hout : layOut formatter document = .ok (String.ofList (trim texts.flatten)) := by
    unfold layOut
    rw [hpieces, htexts]
    rfl
  obtain ⟨text, hnested⟩ := hlaid.nestedLayout hparts hlines hvalid hout
  exact ⟨_, text, hout, hnested⟩

end TableCodegen
