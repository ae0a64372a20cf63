import PipedQuery.Shell.Highlight

/-!
What a terminal shows of a highlighted line. `visible` leaves the escape sequences out of a text.
The pieces into which a line is cut are the line, one after another, and none of them is empty
(`flatMap_ofLine`, `ne_nil_of_mem_ofLine`), whichever rule cuts them; a word is not empty because
what may open one may also continue it. Painting a piece puts sequences around it and, where the
piece has no escape of its own, nothing into it (`reopened_eq_self`). So of a highlighted line
exactly the line is shown (`visible_highlight`).
-/

set_option autoImplicit false
set_option relaxedAutoImplicit false

namespace PipedQuery.Shell

/-- What is shown of a text. An escape sequence runs to the next `m`; `inside` tells that one has
begun. -/
def shown (inside : Bool) : List Char → List Char
  | [] => []
  | c :: rest =>
    if c = Style.escape then shown true rest
    else if inside then shown (c ≠ 'm') rest
    else c :: shown false rest

/-- The text without its escape sequences. -/
def visible (text : String) : String :=
  String.ofList (shown false text.toList)

theorem shown_append {text : List Char} (hplain : Style.escape ∉ text) (rest : List Char) :
    shown false (text ++ rest) = text ++ shown false rest := by
  induction text with
  | nil => rfl
  | cons c text ih =>
    obtain ⟨hfirst, htext⟩ := not_or.mp (mt List.mem_cons.mpr hplain)
    simp [shown, Ne.symm hfirst, ih htext]

/-- Nothing is shown of the rest of a sequence. -/
theorem shown_sequence {code : List Char} (hplain : Style.escape ∉ code) (hcode : 'm' ∉ code)
    (rest : List Char) : shown true (code ++ 'm' :: rest) = shown false rest := by
  induction code with
  | nil => simp [shown, Style.escape]
  | cons c code ih =>
    obtain ⟨hfirst, hcode⟩ := not_or.mp (mt List.mem_cons.mpr hcode)
    obtain ⟨hescape, hplain⟩ := not_or.mp (mt List.mem_cons.mpr hplain)
    simp [shown, Ne.symm hfirst, Ne.symm hescape, ih hplain hcode]

namespace Style

theorem shown_opening (style : Style) (rest : List Char) :
    shown false (style.opening ++ rest) = shown false rest := by
  have hsequence : style.opening ++ rest =
      escape :: (('[' :: style.code.toList) ++ 'm' :: rest) := by
    simp [opening]
  have hplain : escape ∉ '[' :: style.code.toList := by cases style <;> decide
  have hcode : 'm' ∉ '[' :: style.code.toList := by cases style <;> decide
  rw [hsequence, shown, if_pos rfl, shown_sequence hplain hcode]

theorem shown_ending (rest : List Char) : shown false (ending ++ rest) = shown false rest := by
  have hplain : escape ∉ ['[', '0'] := by decide
  have hcode : 'm' ∉ ['[', '0'] := by decide
  exact shown_sequence hplain hcode rest

theorem reopened_eq_self (style : Style) {text : List Char} (hplain : escape ∉ text) :
    style.reopened text = text := by
  fun_induction reopened style text with
  | case1 rest => exact absurd List.mem_cons_self hplain
  | case2 c rest _ ih => rw [ih fun hrest ↦ hplain (List.mem_cons_of_mem c hrest)]
  | case3 => rfl

theorem shown_apply (style : Style) {text : List Char} (hplain : escape ∉ text)
    (rest : List Char) : shown false (style.apply text ++ rest) = text ++ shown false rest := by
  rw [apply, style.reopened_eq_self hplain, List.append_assoc, List.append_assoc, shown_opening,
    shown_append hplain, shown_ending]

end Style

namespace Piece

/-- Every character of a quoted text is in it or behind it, also where the quote is never closed
or a backslash has nothing to take along. -/
theorem closeQuote_append (quote : Char) (chars : List Char) :
    (closeQuote quote chars).1 ++ (closeQuote quote chars).2 = chars := by
  -- A backslash takes the next character along, if there is one (the fourth case).
  fun_induction closeQuote quote chars with
  | case1 => rfl
  | case2 => rfl
  | case3 => rfl
  | case4 next more inside left hsplit hquote ih =>
    rw [hsplit] at ih
    rw [← ih]
    rfl
  | case5 c rest hquote hslash inside left hsplit ih =>
    rw [hsplit] at ih
    rw [← ih]
    rfl

theorem flatMap_scan (chars : List Char) : (scan chars).flatMap text = chars := by
  fun_induction scan chars with
  | case1 => rfl
  | case2 c rest hquote ih =>
    rw [List.flatMap_cons, ih, List.cons_append, closeQuote_append]
  | case3 rest hquote ih => rw [List.flatMap_cons, ih, List.singleton_append]
  | case4 c rest hquote hpipe hstarts word ih =>
    rw [List.flatMap_cons, ih, List.takeWhile_append_dropWhile]
  | case5 c rest hquote hpipe hword hnumber ih =>
    rw [List.flatMap_cons, ih, List.cons_append, List.takeWhile_append_dropWhile]
  | case6 c rest hquote hpipe hword hnumber ih =>
    rw [List.flatMap_cons, ih, List.singleton_append]

/-- A word holds at least the character that opens it. -/
theorem takeWhile_continuesWord_ne_nil {c : Char} (hstarts : startsWord c = true)
    (rest : List Char) : (c :: rest).takeWhile continuesWord ≠ [] := by
  rw [List.takeWhile_cons_of_pos (continuesWord_of_startsWord hstarts)]
  exact List.cons_ne_nil _ _

theorem ne_nil_of_mem_scan {piece : Piece} (chars : List Char) (hpiece : piece ∈ scan chars) :
    piece.text ≠ [] := by
  fun_induction scan chars with
  | case1 => cases hpiece
  | case2 c rest hquote ih | case3 rest hquote ih | case5 c rest hquote hpipe hword hnumber ih
  | case6 c rest hquote hpipe hword hnumber ih =>
    rcases List.mem_cons.mp hpiece with rfl | hrest
    · exact List.cons_ne_nil _ _
    · exact ih hrest
  | case4 c rest hquote hpipe hstarts word ih =>
    rcases List.mem_cons.mp hpiece with rfl | hrest
    · exact takeWhile_continuesWord_ne_nil hstarts rest
    · exact ih hrest

theorem ofLine_cases (line : String) :
    ofLine line = [⟨some .metaLine, line.toList⟩] ∧ line.toList ≠ [] ∨
      ofLine line = scan line.toList := by
  unfold ofLine
  split
  next rest hline => exact Or.inl ⟨by rw [hline], by simp [hline]⟩
  next => exact Or.inr rfl

/-- The pieces of a line are the line. -/
theorem flatMap_ofLine (line : String) : (ofLine line).flatMap text = line.toList := by
  rcases ofLine_cases line with ⟨hline, -⟩ | hline
  · simp [hline]
  · rw [hline, flatMap_scan]

theorem ne_nil_of_mem_ofLine {line : String} {piece : Piece} (hpiece : piece ∈ ofLine line) :
    piece.text ≠ [] := by
  rcases ofLine_cases line with ⟨hline, hsome⟩ | hline
  · rw [hline, List.mem_singleton] at hpiece
    rwa [hpiece]
  · exact ne_nil_of_mem_scan line.toList (hline ▸ hpiece)

theorem shown_painted {piece : Piece} (hplain : Style.escape ∉ piece.text) (rest : List Char) :
    shown false (piece.painted ++ rest) = piece.text ++ shown false rest := by
  unfold painted
  split
  next style _ => exact style.shown_apply hplain rest
  next => exact shown_append hplain rest

theorem shown_flatMap_painted {pieces : List Piece}
    (hplain : Style.escape ∉ pieces.flatMap text) :
    shown false (pieces.flatMap painted) = pieces.flatMap text := by
  induction pieces with
  | nil => rfl
  | cons piece pieces ih =>
    rw [List.flatMap_cons, List.mem_append, not_or] at hplain
    rw [List.flatMap_cons, List.flatMap_cons, shown_painted hplain.1, ih hplain.2]

end Piece

/-- Of a highlighted line the line is shown. It is cut into pieces, none of them empty, which are
the line one after another, and the colours that they get are all that is added. -/
theorem visible_highlight {line : String} (hplain : Style.escape ∉ line.toList) :
    (Piece.ofLine line).flatMap Piece.text = line.toList ∧
      (∀ piece ∈ Piece.ofLine line, piece.text ≠ []) ∧
      visible (highlight line) = line := by
  have hpieces := Piece.flatMap_ofLine line
  refine ⟨hpieces, fun piece ↦ Piece.ne_nil_of_mem_ofLine, ?_⟩
  rw [visible, highlight, String.toList_ofList, Piece.shown_flatMap_painted (hpieces ▸ hplain),
    hpieces, String.ofList_toList]

/-- Quotes of two kinds, of which one is never closed, with a backslash at the end. -/
def unfinishedLine : String :=
  "where größe = -1.5 - 名 | stats avg(x) by 'a\"b' \"it's \\"

theorem visible_highlight_unfinished :
    Style.escape ∉ unfinishedLine.toList ∧
      visible (highlight unfinishedLine) = unfinishedLine := by
  have hplain : Style.escape ∉ unfinishedLine.toList := by decide
  exact ⟨hplain, (visible_highlight hplain).2.2⟩

end PipedQuery.Shell
