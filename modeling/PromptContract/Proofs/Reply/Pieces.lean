import PromptContract.Proofs.Reply.Scan

/-!
# A reply in pieces

However a reply is cut, a scanner that was fed its pieces one by one (`MarkerScanner.feed`) is the
scanner of the whole (`feed_ofText`, `foldl_after`). Feeding looks again at the last line alone, and
that is enough: the markers on whole lines are what a scan of these lines gives, and behind whole
lines a scan starts afresh, so the markers that are kept and those of the new last lines are the
markers of the whole text (`ofText_eq`). On the last line itself nothing is kept, since more text
may close an opening half there, and the marker that comes about may cover others behind it.

`scanner_of_pieces` states this for any row of requests, pieces and questions about values mixed.
-/

namespace PromptContract.Reply.Scanner

open Text

/-- The last line of whole lines and a line without a break starts behind the whole lines. -/
theorem lastLineStart_append {whole last : List Char} (hwhole : WholeLines whole)
    (hlast : '\n' ∉ last) : lastLineStart (whole ++ last) = whole.length := by
  have hrun : (whole ++ last).reverse.takeWhile (· != '\n') = last.reverse := by
    have hall : ∀ c ∈ last.reverse, (c != '\n') = true := by
      intro c hc
      have hne : c ≠ '\n' := fun h => hlast (h ▸ List.mem_reverse.mp hc)
      simpa using hne
    rw [List.reverse_append, List.takeWhile_append_of_pos hall]
    -- Behind the last line the run stops at the break of the whole lines, or with the text.
    rcases hwhole.getLast? with rfl | hbreak
    · simp
    · rw [← List.head?_reverse] at hbreak
      obtain ⟨tail, htail⟩ := List.head?_eq_some_iff.mp hbreak
      rw [htail]
      simp
  unfold lastLineStart
  rw [hrun, List.length_append, List.length_reverse]
  omega

/-- The scanner of a text has the text's markers and the start of its last line. -/
theorem ofText_eq (cs : List Char) : ofText cs = ⟨cs, Marker.scan cs, lastLineStart cs⟩ := by
  cases cs with
  | nil => rfl
  | cons c cs => rfl

/-- The markers of whole lines are those in front of the last line. -/
theorem filter_scan_append {whole : List Char} (hwhole : WholeLines whole) (cs : List Char) :
    (Marker.scan (whole ++ cs)).filter (·.start < whole.length) = Marker.scan whole := by
  rw [Marker.scan_append hwhole, List.filter_append]
  have hkept : (Marker.scan whole).filter (·.start < whole.length) = Marker.scan whole := by
    apply List.filter_eq_self.mpr
    intro m hm
    have hbounds := Marker.bounds_of_mem_scanFrom hm
    simp only [decide_eq_true_eq]
    omega
  have hdropped :
      (Marker.scanFrom whole.length 0 true cs).filter (·.start < whole.length) = [] := by
    apply List.filter_eq_nil_iff.mpr
    intro m hm
    have hbounds := Marker.bounds_of_mem_scanFrom hm
    simp only [decide_eq_true_eq]
    omega
  rw [hkept, hdropped, List.append_nil]

/-- A piece fed to the scanner of a text makes it the scanner of the longer text. -/
theorem feed_ofText (cs piece : List Char) : (ofText cs).feed piece = ofText (cs ++ piece) := by
  by_cases hpiece : piece = []
  · rw [hpiece, feed_nil, List.append_nil]
  · obtain ⟨whole, last, rfl, hwhole, hlast⟩ := exists_wholeLines_append cs
    have hempty : piece.isEmpty = false := by simpa using hpiece
    -- The markers on whole lines are kept, and the last line is scanned with the piece.
    rw [ofText_eq, ofText_eq, feed]
    simp only [hempty, Bool.false_eq_true, if_false, lastLineStart_append hwhole hlast,
      filter_scan_append hwhole]
    rw [List.append_assoc, List.drop_left, ← Marker.scan_append hwhole]

/-! ## Requests -/

/-- What a scanner is asked: to take a piece of the reply, or for the values of names. -/
inductive Request
  | feed (piece : List Char)
  | values (hold : Bool) (names : List (List Char))

/-- The piece that a request brings. -/
def Request.piece : Request → List Char
  | .feed piece => piece
  | .values _ _ => []

/-- The texts of the fields of names, as far as they have arrived. -/
def values (s : Scanner) (hold : Bool) (names : List (List Char)) :
    List (List Char × Option (List Char)) :=
  names.map fun name => (name, s.value? hold name)

/-- The scanner behind a request. A question leaves it as it is. -/
def after (s : Scanner) : Request → Scanner
  | .feed piece => s.feed piece
  | .values _ _ => s

/-- A request makes the scanner of a text that of the text with the request's piece. -/
theorem after_ofText (cs : List Char) (request : Request) :
    (ofText cs).after request = ofText (cs ++ request.piece) := by
  cases request with
  | feed piece => exact feed_ofText cs piece
  | values hold names => rw [Request.piece, List.append_nil, after]

/-- Requests make the scanner of a text that of the text with all their pieces. -/
theorem foldl_after (cs : List Char) (requests : List Request) :
    requests.foldl after (ofText cs) = ofText (cs ++ requests.flatMap Request.piece) := by
  induction requests generalizing cs with
  | nil => simp
  | cons request requests ih =>
    rw [List.foldl_cons, after_ofText, ih, List.flatMap_cons, List.append_assoc]

/-- However a reply is cut into pieces and whatever is asked in between, the scanner ends with the
whole text and its markers, and answers as the scanner that was given the whole text at once. -/
theorem scanner_of_pieces (requests : List Request) :
    (requests.foldl after empty).text = requests.flatMap Request.piece ∧
      (requests.foldl after empty).markers = Marker.scan (requests.flatMap Request.piece) ∧
      (requests.foldl after empty).markers =
        (ofText (requests.flatMap Request.piece)).markers ∧
      ∀ hold names, (requests.foldl after empty).values hold names =
        (ofText (requests.flatMap Request.piece)).values hold names := by
  have hfold : requests.foldl after empty = ofText (requests.flatMap Request.piece) :=
    foldl_after [] requests
  rw [hfold, ofText_eq]
  exact ⟨rfl, rfl, rfl, fun _ _ => rfl⟩

end PromptContract.Reply.Scanner
