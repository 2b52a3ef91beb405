import CompileTrace.Proofs.CommandLine.Reading

set_option autoImplicit false

/-! # How tokens lie on a command line

A command line that can be read is nothing but blanks and the tokens as they were recorded. A
`Layout` keeps both, and it is *well formed* when blanks are missing between two tokens only where
a closing quote ends the first. Reading finds the tokens of every well-formed layout
(`Reading.tokens_line`), and every line that can be read is one
(`Reading.exists_layout_of_tokens`), so that no character of a line is lost or read twice
(`raw_arguments_iff_layout`). -/

namespace CompileTrace

namespace Text

theorem isAllBlank_cons (c : CodePoint) (s : Text) :
    isAllBlank (c :: s) = true ↔ isBlank c = true ∧ s.isAllBlank = true := by
  simp [isAllBlank]

theorem isAllBlank_append (a b : Text) :
    isAllBlank (a ++ b) = true ↔ a.isAllBlank = true ∧ b.isAllBlank = true := by
  simp [isAllBlank]

end Text

/-! ## Layouts -/

/-- A command line taken apart: the blanks that it begins with, and its tokens, each with the
    blanks after it. -/
structure Layout where
  lead : Text
  items : List (Token × Text)
  deriving DecidableEq, Repr

namespace Layout

/-- The line that is laid out. -/
def line (layout : Layout) : Text :=
  layout.lead ++ layout.items.flatMap (fun item => item.1.raw ++ item.2)

/-- The tokens on the line. -/
def tokens (layout : Layout) : List Token := layout.items.map Prod.fst

/-- Only blanks stand between the tokens, and where none stand before another token, the region of
    the token before has been closed. -/
structure WellFormed (layout : Layout) : Prop where
  lead : layout.lead.isAllBlank = true
  tokens : ∀ item ∈ layout.items, item.1.WellFormed
  blanks : ∀ item ∈ layout.items, item.2.isAllBlank = true
  apart : ∀ item ∈ layout.items.dropLast, item.2 = [] → item.1.region? ≠ none

/-- The layout with one more blank before it. -/
def indent (blank : CodePoint) (layout : Layout) : Layout := ⟨blank :: layout.lead, layout.items⟩

/-- The layout with a token and blanks before it. -/
def place (token : Token) (blanks : Text) (layout : Layout) : Layout :=
  ⟨[], (token, blanks ++ layout.lead) :: layout.items⟩

theorem line_indent (blank : CodePoint) (layout : Layout) :
    (layout.indent blank).line = blank :: layout.line := rfl

theorem line_place (token : Token) (blanks : Text) (layout : Layout) :
    (layout.place token blanks).line = token.raw ++ blanks ++ layout.line := by
  simp [place, line]

theorem WellFormed.indent {layout : Layout} (h : layout.WellFormed) {blank : CodePoint}
    (hblank : isBlank blank = true) : (layout.indent blank).WellFormed := by
  have hlead := (Text.isAllBlank_cons blank layout.lead).2 ⟨hblank, h.lead⟩
  exact ⟨hlead, h.tokens, h.blanks, h.apart⟩

theorem WellFormed.place {layout : Layout} (h : layout.WellFormed) {token : Token}
    (htoken : token.WellFormed) {blanks : Text} (hblanks : blanks.isAllBlank = true)
    (hapart : blanks = [] → token.region? ≠ none) : (layout.place token blanks).WellFormed := by
  refine ⟨rfl, ?_, ?_, ?_⟩
  · intro item hitem
    rcases List.mem_cons.1 hitem with rfl | hitem
    · exact htoken
    · exact h.tokens item hitem
  · intro item hitem
    rcases List.mem_cons.1 hitem with rfl | hitem
    · exact (Text.isAllBlank_append blanks layout.lead).2 ⟨hblanks, h.lead⟩
    · exact h.blanks item hitem
  · intro item hitem hnone
    cases hitems : layout.items with
    | nil => simp [Layout.place, hitems] at hitem
    | cons next others =>
      simp only [Layout.place, hitems, List.dropLast_cons_cons, List.mem_cons] at hitem
      rcases hitem with rfl | hitem
      · exact hapart (List.append_eq_nil_iff.1 hnone).1
      · exact h.apart item (hitems ▸ hitem) hnone

theorem WellFormed.tail {lead : Text} {item : Token × Text} {others : List (Token × Text)}
    (h : WellFormed ⟨lead, item :: others⟩) : WellFormed ⟨[], others⟩ := by
  refine ⟨rfl, fun other hother => h.tokens other (List.mem_cons_of_mem _ hother),
    fun other hother => h.blanks other (List.mem_cons_of_mem _ hother), ?_⟩
  intro other hother
  refine h.apart other ?_
  cases others with
  | nil => simp at hother
  | cons next more => exact List.mem_cons_of_mem _ hother

end Layout

/-- A well-formed token is recorded in at least one character. -/
theorem Token.WellFormed.raw_ne_nil {token : Token} (h : token.WellFormed) : token.raw ≠ [] := by
  obtain ⟨s, _ | content⟩ := token
  · exact h.nonempty rfl
  · simp [Token.raw]

namespace Reading

/-! ## Reading a layout -/

/-- Blanks between tokens are skipped. -/
theorem run_blanks (s : Text) (h : s.isAllBlank = true) : between.run s = (between, []) := by
  induction s with
  | nil => rfl
  | cons c rest ih =>
    obtain ⟨hblank, hrest⟩ := (Text.isAllBlank_cons c rest).1 h
    have hstep : between.next c = (between, none) := by simp [next, hblank]
    rw [run, hstep, ih hrest]
    rfl

/-- A token is over after the blanks behind it, or at once if its region is closed. -/
theorem run_raw_blanks (token : Token) (h : token.WellFormed) (blanks : Text)
    (hblanks : blanks.isAllBlank = true) (hapart : blanks = [] → token.region? ≠ none) :
    between.run (token.raw ++ blanks) = (between, [token]) := by
  cases blanks with
  | nil =>
    obtain ⟨content, hregion⟩ := Option.ne_none_iff_exists'.1 (hapart rfl)
    rw [List.append_nil, run_raw token h, hregion]
  | cons blank more =>
    obtain ⟨hblank, hmore⟩ := (Text.isAllBlank_cons blank more).1 hblanks
    rw [List.append_cons, run_append, run_raw_blank token h blank hblank, run_blanks more hmore]
    rfl

/-- With the line every token is over. -/
theorem tokens_raw_blanks (token : Token) (h : token.WellFormed) (blanks : Text)
    (hblanks : blanks.isAllBlank = true) :
    between.tokens (token.raw ++ blanks) = .ok [token] := by
  cases blanks with
  | nil => rw [List.append_nil, tokens_raw token h]
  | cons blank more =>
    rw [tokens_eq_run, run_raw_blanks token h _ hblanks (by simp)]
    rfl

/-- **The tokens of a well-formed layout are read from its line.** -/
theorem tokens_line (layout : Layout) (h : layout.WellFormed) :
    between.tokens layout.line = .ok layout.tokens := by
  obtain ⟨lead, items⟩ := layout
  have hlead : ∀ s, between.tokens (lead ++ s) = between.tokens s := by
    intro s
    rw [tokens_append, run_blanks lead h.lead]
    cases between.tokens s <;> rfl
  rw [Layout.line, hlead]
  clear hlead
  induction items generalizing lead with
  | nil => rfl
  | cons item others ih =>
    have hitem := h.tokens item List.mem_cons_self
    have hblanks := h.blanks item List.mem_cons_self
    -- the last token alone may be plain with nothing behind it
    cases others with
    | nil => simpa [Layout.tokens] using tokens_raw_blanks item.1 hitem item.2 hblanks
    | cons next more =>
      have hapart := h.apart item (by simp)
      rw [List.flatMap_cons, tokens_append, run_raw_blanks item.1 hitem item.2 hblanks hapart,
        ih [] h.tail]
      rfl

/-! ## The layout of a line -/

/-- What has been read of the token under way, as it is recorded. -/
def pending : Reading → Text
  | between => []
  | text seen => seen.reverse
  | region seen content _ => seen.reverse ++ char '"' :: content.reverse

/-- What one character does: it is skipped between tokens, it belongs to the token under way, it
    ends that token as a blank, or it ends it as the closing quote. -/
inductive Step (reading : Reading) (c : CodePoint) : Reading × Option Token → Prop
  | skip : reading = between → isBlank c = true → Step reading c (between, none)
  | grow (after : Reading) : after.pending = reading.pending ++ [c] → Step reading c (after, none)
  | blank (token : Token) : isBlank c = true → token.raw = reading.pending →
    Step reading c (between, some token)
  | close (token : Token) : token.region? ≠ none → token.raw = reading.pending ++ [c] →
    Step reading c (between, some token)

theorem next_step (reading : Reading) (c : CodePoint) : Step reading c (reading.next c) := by
  cases reading with
  | between =>
    simp only [next]
    split_ifs with hblank hquote
    · exact .skip rfl hblank
    · exact .grow _ (by simp [pending, hquote])
    · exact .grow _ rfl
  | text seen =>
    simp only [next]
    split_ifs with hquote hblank
    · exact .grow _ (by simp [pending, hquote])
    · exact .blank _ hblank rfl
    · exact .grow _ (by simp [pending])
  | region seen content afterBackslash =>
    simp only [next]
    split_ifs with hcloses
    · exact .close _ (by simp) (by simp [pending, Token.raw, hcloses.1])
    · exact .grow _ (by simp [pending])

/-- At the end of a line nothing was under way, or a token that is now over. -/
theorem exists_layout_of_finish {reading : Reading} {found : List Token} (hvalid : reading.Valid)
    (h : reading.finish = .ok found) :
    ∃ layout : Layout, layout.WellFormed ∧ layout.line = reading.pending
      ∧ layout.tokens = found := by
  have hfound := finish_wellFormed reading found hvalid h
  cases reading with
  | between =>
    cases h
    exact ⟨⟨[], []⟩, ⟨rfl, by simp, by simp, by simp⟩, rfl, rfl⟩
  | text seen =>
    cases h
    have htoken := hfound ⟨seen.reverse, none⟩ (by simp)
    refine ⟨⟨[], [(⟨seen.reverse, none⟩, [])]⟩, ⟨rfl, ?_, ?_, by simp⟩, ?_, rfl⟩
    · simpa using htoken
    · simp [Text.isAllBlank]
    · simp [Layout.line, Token.raw, pending]
  | region seen content afterBackslash => cases h

/-- **The rest of a line, with what has been read of the token under way before it, is laid out as
    the tokens that reading finds.** -/
theorem exists_layout_of_tokens {reading : Reading} {s : Text} {found : List Token}
    (hvalid : reading.Valid) (h : reading.tokens s = .ok found) :
    ∃ layout : Layout, layout.WellFormed ∧ layout.line = reading.pending ++ s
      ∧ layout.tokens = found := by
  induction s generalizing reading found with
  | nil =>
    rw [List.append_nil]
    exact exists_layout_of_finish hvalid h
  | cons c rest ih =>
    rw [tokens_cons] at h
    obtain ⟨later, hrest, rfl⟩ := exists_of_map_eq_ok h
    obtain ⟨hafter, htoken⟩ := next_valid reading c hvalid
    obtain ⟨layout, hlayout, hline, rfl⟩ := ih hafter hrest
    have hstep := next_step reading c
    generalize reading.next c = step at *
    cases hstep with
    | skip hreading hblank =>
      subst hreading
      exact ⟨layout.indent c, hlayout.indent hblank, by simp [Layout.line_indent, hline, pending],
        rfl⟩
    | grow after hpending =>
      exact ⟨layout, hlayout, by simp [hline, hpending], rfl⟩
    | blank token hblank hraw =>
      refine ⟨layout.place token [c], hlayout.place (htoken token rfl) ?_ (by simp), ?_, rfl⟩
      · exact (Text.isAllBlank_cons c []).2 ⟨hblank, rfl⟩
      · simp [Layout.line_place, hline, hraw, pending]
    | close token hregion hraw =>
      refine ⟨layout.place token [], hlayout.place (htoken token rfl) rfl (fun _ => hregion), ?_,
        rfl⟩
      simp [Layout.line_place, hline, hraw, pending]

end Reading

/-! ## Lines and layouts -/

/-- **A line gives some tokens exactly when it is well laid out with them.** -/
theorem tokenize_iff_layout (commandLine : Text) (found : List Token) :
    tokenize commandLine = .ok found
      ↔ ∃ layout : Layout, layout.WellFormed ∧ layout.line = commandLine
        ∧ layout.tokens = found := by
  rw [tokenize_eq_ok_iff]
  constructor
  · intro h
    have hstart : Reading.between.Valid := trivial
    exact Reading.exists_layout_of_tokens hstart h
  · rintro ⟨layout, hlayout, rfl, rfl⟩
    exact Reading.tokens_line layout hlayout

/-- **Recorded arguments lose nothing of the line**: a line gives some recorded arguments exactly
    when it is blanks and these arguments in turn, none of them empty, each the record of a
    well-formed token, and blanks are missing between two only where a closing quote ends the
    first. -/
theorem raw_arguments_iff_layout (commandLine : Text) (raws : List Text) :
    arguments true commandLine = .ok raws
      ↔ ∃ layout : Layout, layout.WellFormed ∧ layout.line = commandLine
        ∧ layout.tokens.map Token.raw = raws ∧ ∀ raw ∈ raws, raw ≠ [] := by
  rw [arguments_eq_ok_iff]
  constructor
  · rintro ⟨found, htokens, rfl⟩
    obtain ⟨layout, hlayout, hline, rfl⟩ := (tokenize_iff_layout commandLine found).1 htokens
    refine ⟨layout, hlayout, hline, rfl, ?_⟩
    intro raw hraw
    obtain ⟨token, htoken, rfl⟩ := List.mem_map.1 hraw
    exact (tokenize_wellFormed commandLine _ htokens token htoken).raw_ne_nil
  · rintro ⟨layout, hlayout, hline, rfl, -⟩
    have htokens := (tokenize_iff_layout commandLine _).2 ⟨layout, hlayout, hline, rfl⟩
    exact ⟨layout.tokens, htokens, rfl⟩

/-- Nothing stands between a closing quote and the argument after it. -/
example : arguments true " a\"b c\"d ".toText = .ok ["a\"b c\"".toText, "d".toText] := by decide

end CompileTrace
