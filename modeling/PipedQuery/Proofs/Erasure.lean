import PipedQuery.Proofs.Keystrokes

/-!
A query that is typed and then erased again. On the way back the same texts are read in the reverse
order, but not in the same sessions: a session holds one clause, which a pipe ends and the next
`stats` or `where` replaces, and it does not get back what it has lost. So a text is found at its
old position exactly if what decided that position has survived (`Position.Survives`). Most
positions follow from the words alone. A place in a clause is found again unless another clause, or
another segment, was begun behind it; and a place in a list of fields, or outside of one, unless
the nearest pipe or list behind it says otherwise (`backward_iff`).

Two sessions are compared at the same words (`position_eq_iff`): one has the clause of the other, or
its own clause was begun further on and has no phase here. `Recalls` is what one character erased
after another keeps of this.
-/

set_option autoImplicit false
set_option relaxedAutoImplicit false

namespace PipedQuery

namespace Text

/-- The beginnings of a text, from the empty one to the text itself. -/
def beginnings (text : String) : List String :=
  text.toList.inits.map String.ofList

/-- The texts that characters make behind another one, each with one character more. -/
def continuations (lead : String) : List Char → List String
  | [] => []
  | c :: rest =>
    (lead ++ String.ofList [c]) :: continuations (lead ++ String.ofList [c]) rest

theorem length_continuations (lead : String) (tail : List Char) :
    (continuations lead tail).length = tail.length := by
  induction tail generalizing lead with
  | nil => rfl
  | cons c rest ih => rw [continuations, List.length_cons, List.length_cons, ih]

theorem append_cons (lead : String) (c : Char) (rest : List Char) :
    lead ++ String.ofList (c :: rest) = lead ++ String.ofList [c] ++ String.ofList rest := by
  rw [String.append_assoc, ← String.ofList_append]
  rfl

theorem beginnings_concat (lead : String) (c : Char) :
    beginnings (lead ++ String.ofList [c]) = beginnings lead ++ [lead ++ String.ofList [c]] := by
  simp [beginnings, List.inits_append]

theorem beginnings_append (lead : String) (tail : List Char) :
    beginnings (lead ++ String.ofList tail) = beginnings lead ++ continuations lead tail := by
  induction tail generalizing lead with
  | nil => simp [continuations]
  | cons c rest ih =>
    rw [append_cons, ih, beginnings_concat, continuations, List.append_assoc]
    rfl

/-- A text is the last of its own beginnings; among those of a longer text it stands between the
shorter and the longer ones. -/
theorem beginnings_split (lead tail : String) :
    ∃ shorter, beginnings lead = shorter ++ [lead] ∧ shorter.length = lead.length ∧
      beginnings (lead ++ tail) = shorter ++ lead :: continuations lead tail.toList := by
  have hlast : (beginnings lead).dropLast ++ [lead] = beginnings lead :=
    List.dropLast_append_getLast? lead (Typed.of_inits lead).ends
  refine ⟨(beginnings lead).dropLast, hlast.symm, by simp [beginnings, String.length_toList], ?_⟩
  have happend := beginnings_append lead tail.toList
  rwa [String.ofList_toList, ← hlast, List.append_assoc] at happend

end Text

namespace Position

/-- A clause is begun or ended there, whatever clause there was before. -/
def turnsClause : Position → Bool
  | firstCommand | pipeCommand | statsFunction | whereField => true
  | _ => false

/-- Whether a list of fields is being typed from there on, if that is settled anew. -/
def listing : Position → Option Bool
  | firstCommand | pipeCommand => some false
  | fieldsFirst => some true
  | _ => Option.none

/-- The phase of a clause has led there. -/
def inClause : Position → Bool
  | statsFieldArg | statsByKeyword | statsGroupField | whereEquals | whereValue
  | clauseComplete => true
  | _ => false

/-- Whether a list of fields is being typed, if that has led there. -/
def inList : Position → Option Bool
  | fieldListContinuation | fieldListOrPipe => some true
  | none => some false
  | _ => Option.none

/-- What the last of the positions says of a list of fields. -/
def lastListing (passed : List Position) : Option Bool :=
  passed.reverse.findSome? listing

/-- The position is still found after other ones were passed on the way back to it: none of them
turned the clause, if that has led there, and the last that settled it left the list as it was. -/
def Survives (position : Position) (passed : List Position) : Prop :=
  (position.inClause = true → ∀ other ∈ passed, other.turnsClause = false) ∧
    ∀ listed ∈ position.inList, (lastListing passed).getD listed = listed

instance (position : Position) (passed : List Position) : Decidable (position.Survives passed) :=
  inferInstanceAs (Decidable (_ ∧ _))

theorem lastListing_concat (passed : List Position) (position : Position) :
    lastListing (passed ++ [position]) = position.listing.or (lastListing passed) := by
  cases hlisting : position.listing <;> simp [lastListing, hlisting]

end Position

namespace Clause

/-- The clause was begun with no fewer words than these, so that it has no phase here. -/
def Beyond (size : Nat) : Clause → Prop
  | idle => True
  | stats anchor | filter anchor => size ≤ anchor

variable {clause : Clause} {tokens : Tokens} {size : Nat}

theorem Beyond.mono {fewer : Nat} (hbeyond : clause.Beyond size) (hfewer : fewer ≤ size) :
    clause.Beyond fewer := by
  cases clause with
  | idle => trivial
  | stats anchor => exact hfewer.trans hbeyond
  | filter anchor => exact hfewer.trans hbeyond

theorem Beyond.statsPhase (hbeyond : clause.Beyond tokens.size) :
    clause.statsPhase tokens = none := by
  cases clause with
  | idle => rfl
  | stats anchor => exact statsPhase_eq_none hbeyond
  | filter anchor => rfl

theorem Beyond.filterPhase (hbeyond : clause.Beyond size) : clause.filterPhase size = none := by
  cases clause with
  | idle => rfl
  | stats anchor => rfl
  | filter anchor =>
    have hanchor : size ≤ anchor := hbeyond
    simp only [Clause.filterPhase]
    split_ifs <;> first | rfl | omega

end Clause

namespace Reading

variable {settings : Settings} {catalog : Catalog} {session there here : Session} {tokens : Tokens}
  {position : Position}

/-! ### What a position leaves -/

theorem sessionAt_clause (hkept : position.turnsClause = false) :
    (sessionAt catalog session tokens position).clause = session.clause := by
  cases position <;> first | rfl | cases hkept

theorem sessionAt_beyond (hturned : position.turnsClause = true) :
    (sessionAt catalog session tokens position).clause.Beyond tokens.size := by
  cases position <;> first | exact trivial | exact Nat.le_refl _ | cases hturned

theorem sessionAt_listsFields (position : Position) :
    (sessionAt catalog session tokens position).listsFields =
      position.listing.getD session.listsFields := by
  cases position <;> rfl

/-! ### Two sessions at the same words -/

/-- A clause without a phase leads nowhere. -/
theorem ofCommand_position_ne (hbeyond : here.clause.Beyond tokens.size)
    (hclause : position.inClause = true) (previous : String) :
    (ofCommand catalog here tokens previous).position ≠ position := by
  rintro rfl
  refine absurd hclause (Bool.not_eq_true _ ▸ ?_)
  simp only [ofCommand, hbeyond.filterPhase, hbeyond.statsPhase]
  split_ifs <;> first | rfl | contradiction

section Compare

variable {kept : Prop} (hkept : kept → here.clause = there.clause)
  (hlost : ¬ kept → here.clause.Beyond tokens.size)

include hkept hlost

theorem ofCommand_position_iff (catalog : Catalog) (previous : String) :
    (ofCommand catalog here tokens previous).position =
        (ofCommand catalog there tokens previous).position ↔
      ((ofCommand catalog there tokens previous).position.inClause = true → kept) ∧
        ∀ listed ∈ (ofCommand catalog there tokens previous).position.inList,
          here.listsFields = listed := by
  by_cases hfields : previous = "fields"
  · simp [ofCommand, hfields, atField, Position.inClause, Position.inList]
  by_cases hdedup : previous = "dedup"
  · simp [ofCommand, hdedup, atField, Position.inClause, Position.inList]
  by_cases hwhere : previous = "where"
  · simp [ofCommand, hwhere, atField, Position.inClause, Position.inList]
  by_cases hsame : kept
  · -- With the same clause only the list can differ, and it counts where no phase decides.
    simp only [ofCommand, hfields, hdedup, hwhere, hkept hsame, if_false]
    cases there.clause.filterPhase tokens.size with
    | some phase => cases phase <;> simp [ofFilter, Position.inList, hsame]
    | none =>
      by_cases hcomplete : there.clause.statsPhase tokens = some .complete
      · simp [hcomplete, Position.inList, hsame]
      · cases there.listsFields <;> cases here.listsFields <;>
          simp [hcomplete, Position.inClause, Position.inList]
  · -- Without it there is no phase, and no phase leads to where none did.
    simp only [ofCommand, hfields, hdedup, hwhere, (hlost hsame).filterPhase,
      (hlost hsame).statsPhase, if_false, reduceCtorEq]
    cases there.clause.filterPhase tokens.size with
    | some phase =>
      cases phase <;> cases here.listsFields <;> simp [ofFilter, Position.inClause, hsame]
    | none =>
      by_cases hcomplete : there.clause.statsPhase tokens = some .complete
      · cases here.listsFields <;> simp [hcomplete, Position.inClause, hsame]
      · cases there.listsFields <;> cases here.listsFields <;>
          simp [hcomplete, Position.inClause, Position.inList]

theorem ofSegment_position_iff (catalog : Catalog) (previous : String) :
    (ofSegment catalog here tokens previous).position =
        (ofSegment catalog there tokens previous).position ↔
      ((ofSegment catalog there tokens previous).position.inClause = true → kept) ∧
        ∀ listed ∈ (ofSegment catalog there tokens previous).position.inList,
          here.listsFields = listed := by
  have hcommand := ofCommand_position_iff hkept hlost catalog previous
  by_cases hsearch : previous = "search"
  · simp [ofSegment, hsearch, Position.inClause, Position.inList]
  by_cases hstats : previous = "stats"
  · simp [ofSegment, hstats, Position.inClause, Position.inList]
  by_cases hsame : kept
  · simp only [ofSegment, hsearch, hstats, hkept hsame, if_false]
    cases there.clause.statsPhase tokens with
    | none => exact hcommand
    | some phase =>
      cases phase with
      | complete => exact hcommand
      | _ => simp [atField, Position.inList, hsame]
  · simp only [ofSegment, hsearch, hstats, (hlost hsame).statsPhase, if_false]
    cases there.clause.statsPhase tokens with
    | none => exact hcommand
    | some phase =>
      cases phase with
      | complete => exact hcommand
      | _ =>
        simpa [atField, Position.inClause, hsame] using
          ofCommand_position_ne (hlost hsame) rfl previous

theorem ofPrevious_position_iff (previous : String) :
    (ofPrevious catalog here tokens previous).position =
        (ofPrevious catalog there tokens previous).position ↔
      ((ofPrevious catalog there tokens previous).position.inClause = true → kept) ∧
        ∀ listed ∈ (ofPrevious catalog there tokens previous).position.inList,
          here.listsFields = listed := by
  by_cases hpipe : previous = "|"
  · simp [ofPrevious, hpipe, Position.inClause, Position.inList]
  by_cases hcomma : Text.mentions ',' previous = true
  · cases hthere : there.listsFields <;> cases hhere : here.listsFields <;>
      simp [ofPrevious, hpipe, hcomma, hthere, hhere, atField, Position.inClause, Position.inList]
  by_cases hsource : Vocabulary.isSourceKeyword previous = true
  · simp [ofPrevious, hpipe, hcomma, hsource, Position.inClause, Position.inList]
  by_cases hequals : (tokens.back 2).any Vocabulary.isSourceKeyword = true
  · simp [ofPrevious, hpipe, hcomma, hsource, hequals, Position.inClause, Position.inList]
  cases hstem : Vocabulary.sourceAssignment tokens.stem with
  | some assignment =>
    simp [ofPrevious, hpipe, hcomma, hsource, hequals, hstem, Position.inClause, Position.inList]
  | none =>
    by_cases hknown : catalog.knows (Vocabulary.indexReference previous) = true
    · simp [ofPrevious, hpipe, hcomma, hsource, hequals, hstem, hknown, Position.inClause,
        Position.inList]
    · have hsegment := ofSegment_position_iff hkept hlost catalog previous
      simp only [ofPrevious, hpipe, hcomma, hsource, hequals, hstem, hknown, if_false,
        Bool.false_eq_true]
      exact hsegment

/-- A session in which the clause was kept or is begun further on finds the position of another
one exactly if the clause was kept, where that led there, and the list is the same, where that
did. -/
theorem position_eq_iff :
    (ofTokens settings catalog here tokens).position =
        (ofTokens settings catalog there tokens).position ↔
      ((ofTokens settings catalog there tokens).position.inClause = true → kept) ∧
        ∀ listed ∈ (ofTokens settings catalog there tokens).position.inList,
          here.listsFields = listed := by
  unfold ofTokens
  cases tokens.previous with
  | none => simp [Position.inClause, Position.inList]
  | some previous => exact ofPrevious_position_iff hkept hlost previous

/-- Wherever the clause or the list is settled anew, this follows from the words. -/
theorem position_of_settles
    (hsettles : (ofTokens settings catalog there tokens).position.turnsClause = true ∨
      (ofTokens settings catalog there tokens).position.listing.isSome = true) :
    (ofTokens settings catalog here tokens).position =
      (ofTokens settings catalog there tokens).position := by
  rw [position_eq_iff hkept hlost]
  cases hposition : (ofTokens settings catalog there tokens).position <;>
    simp_all [Position.turnsClause, Position.listing, Position.inClause, Position.inList]

end Compare

/-- Where a list has led to the position, the session says so. -/
theorem listsFields_of_inList {listed : Bool}
    (hlisted : listed ∈ (ofTokens settings catalog session tokens).position.inList) :
    session.listsFields = listed :=
  ((position_eq_iff (fun _ ↦ rfl) (fun hlost ↦ absurd trivial hlost)).mp rfl).2 listed hlisted

/-! ### One character after another -/

/-- What is left, before completed words are read again, of the session that they had led to: its
clause, unless one of the positions passed since has turned it, and what it said of a list, unless
one of them has settled that anew. -/
structure Recalls (settings : Settings) (catalog : Catalog) (completed : List String)
    (passed : List Position) (session : Session) : Prop where
  kept : (∀ other ∈ passed, other.turnsClause = false) →
    session.clause = (sessionOf settings catalog completed).clause
  lost : ¬ (∀ other ∈ passed, other.turnsClause = false) →
    session.clause.Beyond (completed.length + 1)
  lists : session.listsFields =
    (Position.lastListing passed).getD (sessionOf settings catalog completed).listsFields

namespace Recalls

variable {completed : List String} {passed : List Position} {word : String}

/-- A text is found where it was exactly if its position survives what was passed since. -/
theorem position_iff (hrecalls : Recalls settings catalog completed passed session)
    (stem : String) :
    (ofTokens settings catalog session ⟨completed, stem⟩).position =
        (ofTokens settings catalog (sessionOf settings catalog completed)
          ⟨completed, stem⟩).position ↔
      (ofTokens settings catalog (sessionOf settings catalog completed)
        ⟨completed, stem⟩).position.Survives passed := by
  have hlost : ¬ (∀ other ∈ passed, other.turnsClause = false) →
      session.clause.Beyond (⟨completed, stem⟩ : Tokens).size := hrecalls.lost
  rw [position_eq_iff hrecalls.kept hlost, Position.Survives, hrecalls.lists]
  refine and_congr_right fun _ ↦ forall₂_congr fun listed hlisted ↦ ?_
  rw [listsFields_of_inList hlisted]

/-- A text is read on the way back, and then one with as many words. -/
theorem reread (hrecalls : Recalls settings catalog completed passed session) (stem : String) :
    Recalls settings catalog completed
      (passed ++ [(ofTokens settings catalog session ⟨completed, stem⟩).position])
      (ofTokens settings catalog session ⟨completed, stem⟩).session := by
  have hentailed := (entailed_ofTokens settings catalog session ⟨completed, stem⟩).1
  generalize ofTokens settings catalog session ⟨completed, stem⟩ = reading at hentailed ⊢
  rw [hentailed]
  refine ⟨?_, ?_, ?_⟩
  · intro hnone
    rw [sessionAt_clause (hnone _ (by simp)), hrecalls.kept fun other hother ↦
      hnone other (List.mem_append_left _ hother)]
  · intro hsome
    cases hturns : reading.position.turnsClause with
    | true => exact sessionAt_beyond hturns
    | false =>
      rw [sessionAt_clause hturns]
      refine hrecalls.lost fun hnone ↦ hsome ?_
      simpa [or_imp, forall_and, hturns] using hnone
  · rw [sessionAt_listsFields, Position.lastListing_concat, hrecalls.lists]
    cases reading.position.listing <;> rfl

/-- The text that ends in the space behind a word is read on the way back, and then one in which the
word is not complete. -/
theorem shorten (hrecalls : Recalls settings catalog (completed ++ [word]) passed session) :
    Recalls settings catalog completed
      (passed ++ [(ofTokens settings catalog session ⟨completed ++ [word], ""⟩).position])
      (ofTokens settings catalog session ⟨completed ++ [word], ""⟩).session := by
  obtain ⟨hkept, hlost, hlists⟩ := hrecalls.reread ""
  set tokens : Tokens := ⟨completed ++ [word], ""⟩ with htokens
  -- The reading that the way there made of the same text, in the session of fewer words.
  set forward := ofTokens settings catalog (sessionOf settings catalog completed) tokens
    with hforward
  have hsession : sessionOf settings catalog (completed ++ [word]) = forward.session :=
    sessionOf_concat completed word
  have hagain : ofTokens settings catalog (sessionOf settings catalog (completed ++ [word]))
      tokens = forward := by rw [hsession, hforward, ofTokens_again]
  have hentailed : forward.session =
      sessionAt catalog (sessionOf settings catalog completed) tokens forward.position :=
    (entailed_ofTokens settings catalog _ tokens).1
  have hsettles : forward.position.turnsClause = true ∨ forward.position.listing.isSome = true →
      (ofTokens settings catalog session tokens).position = forward.position := by
    intro hanew
    rw [← hagain] at hanew ⊢
    exact position_of_settles hrecalls.kept hrecalls.lost hanew
  rw [hsession, hentailed] at hkept hlists
  refine ⟨?_, ?_, ?_⟩
  · intro hnone
    rw [hkept hnone]
    refine sessionAt_clause ?_
    by_contra hturns
    rw [Bool.not_eq_false] at hturns
    have hhere := hnone (ofTokens settings catalog session tokens).position (by simp)
    rw [hsettles (Or.inl hturns), hturns] at hhere
    cases hhere
  · intro hsome
    exact (hlost hsome).mono (by simp)
  · rw [hlists, sessionAt_listsFields, Position.lastListing_concat]
    cases hlisting : forward.position.listing with
    | none => rfl
    | some listed => simp [hsettles (Or.inr (by simp [hlisting])), hlisting]

end Recalls

/-! ### There and back -/

/-- The session that texts leave, read in order. -/
def leaves (settings : Settings) (catalog : Catalog) (session : Session) (texts : List String) :
    Session :=
  texts.foldl
    (fun session text ↦ (ofTokens settings catalog session (Tokens.ofQuery text)).session) session

/-- The positions at which the beginnings of a query are found while it is typed, one character
after another. -/
def forward (settings : Settings) (catalog : Catalog) (query : String) : List Position :=
  (readings settings catalog {} (Text.beginnings query)).map Reading.position

/-- The positions at which they are found while it is then erased, from its end. -/
def backward (settings : Settings) (catalog : Catalog) (query : String) : List Position :=
  (readings settings catalog (leaves settings catalog {} (Text.beginnings query))
    (Text.beginnings query).reverse).map Reading.position

theorem leaves_concat (session : Session) (texts : List String) (text : String) :
    leaves settings catalog session (texts ++ [text]) =
      (ofTokens settings catalog (leaves settings catalog session texts)
        (Tokens.ofQuery text)).session := by
  simp [leaves]

theorem readings_append (session : Session) (texts others : List String) :
    readings settings catalog session (texts ++ others) =
      readings settings catalog session texts ++
        readings settings catalog (leaves settings catalog session texts) others := by
  induction texts generalizing session with
  | nil => rfl
  | cons text rest ih =>
    rw [List.cons_append, readings, readings, ih]
    rfl

theorem length_readings (session : Session) (texts : List String) :
    (readings settings catalog session texts).length = texts.length := by
  induction texts generalizing session with
  | nil => rfl
  | cons text rest ih => rw [readings, List.length_cons, List.length_cons, ih]

/-- A text among others is read in the session that the texts before it leave. -/
theorem readings_getElem? (session : Session) (before : List String) (text : String)
    (after : List String) :
    (readings settings catalog session (before ++ text :: after))[before.length]? =
      some (ofTokens settings catalog (leaves settings catalog session before)
        (Tokens.ofQuery text)) := by
  have hlength : (readings settings catalog session before).length = before.length :=
    length_readings session before
  rw [readings_append, ← hlength, List.getElem?_append_right (Nat.le_refl _), Nat.sub_self]
  rfl

theorem readings_take (session : Session) (before after : List String) :
    (readings settings catalog session (before ++ after)).take before.length =
      readings settings catalog session before := by
  rw [readings_append, List.take_left' (length_readings session before)]

/-- However a query was typed, it is then read in the session that its completed words lead to. -/
theorem reading_of_typed {texts : List String} {query : String}
    (htyped : Typed query (texts ++ [query])) (session : Session) :
    ofTokens settings catalog (leaves settings catalog session texts) (Tokens.ofQuery query) =
      ofTokens settings catalog (sessionOf settings catalog (Tokens.ofQuery query).completed)
        (Tokens.ofQuery query) := by
  have hlast : (readings settings catalog session (texts ++ [query])).getLast? = _ :=
    readings_getLast? htyped session
  rw [readings_append] at hlast
  simpa [readings] using hlast

/-- Of the session that a text had led to, this much is left when all that was typed behind it has
been erased. -/
theorem recalls_erased (settings : Settings) (catalog : Catalog) (lead : String)
    (tail : List Char) :
    Recalls settings catalog (Tokens.ofQuery lead).completed
      ((readings settings catalog
        (sessionOf settings catalog (Tokens.ofQuery (lead ++ String.ofList tail)).completed)
        (Text.continuations lead tail).reverse).map Reading.position)
      (leaves settings catalog
        (sessionOf settings catalog (Tokens.ofQuery (lead ++ String.ofList tail)).completed)
        (Text.continuations lead tail).reverse) := by
  induction tail generalizing lead with
  | nil =>
    rw [String.ofList_nil, String.append_empty]
    exact ⟨fun _ ↦ rfl, fun hturned ↦ absurd (by simp [Text.continuations, readings]) hturned, rfl⟩
  | cons c rest ih =>
    have hlonger := ih (lead ++ String.ofList [c])
    rw [← Text.append_cons] at hlonger
    rw [Text.continuations, List.reverse_cons, leaves_concat, readings_append, List.map_append]
    simp only [readings, List.map_cons, List.map_nil]
    by_cases hspace : c = ' '
    · subst hspace
      have htokens : Tokens.ofQuery (lead ++ String.ofList [' ']) =
          ⟨(Tokens.ofQuery lead).words, ""⟩ := Tokens.ofQuery_append_space lead
      rw [htokens] at hlonger ⊢
      exact hlonger.shorten
    · have htokens : Tokens.ofQuery (lead ++ String.ofList [c]) =
          ⟨(Tokens.ofQuery lead).completed, (Tokens.ofQuery lead).stem ++ String.ofList [c]⟩ :=
        Tokens.ofQuery_append lead (by simpa using Ne.symm hspace)
      rw [htokens] at hlonger ⊢
      exact hlonger.reread _

theorem leaves_beginnings (session : Session) (query : String) :
    leaves settings catalog session (Text.beginnings query) =
      sessionOf settings catalog (Tokens.ofQuery query).completed := by
  obtain ⟨shorter, hquery, -, -⟩ := Text.beginnings_split query ""
  have htyped : Typed query (Text.beginnings query) := Typed.of_inits query
  rw [hquery] at htyped ⊢
  rw [leaves_concat, reading_of_typed htyped, sessionOf_keeps]

/-- Each beginning of a query that is typed and then erased again is found on the way back exactly
where it was found on the way there if its position survives the positions passed since. -/
theorem backward_iff (settings : Settings) (catalog : Catalog) (lead tail : String) :
    ∃ there here, (forward settings catalog (lead ++ tail))[lead.length]? = some there ∧
      (backward settings catalog (lead ++ tail))[tail.length]? = some here ∧
      (here = there ↔
        there.Survives ((backward settings catalog (lead ++ tail)).take tail.length)) := by
  obtain ⟨shorter, hlead, hshorter, hquery⟩ := Text.beginnings_split lead tail
  have htyped : Typed lead (Text.beginnings lead) := Typed.of_inits lead
  rw [hlead] at htyped
  have hlonger : (Text.continuations lead tail.toList).reverse.length = tail.length := by
    rw [List.length_reverse, Text.length_continuations, String.length_toList]
  have hrecalls := recalls_erased settings catalog lead tail.toList
  rw [String.ofList_toList] at hrecalls
  -- On the way there the beginning is read behind the shorter ones, on the way back behind the
  -- longer ones.
  have hforward : (forward settings catalog (lead ++ tail))[lead.length]? =
      some (ofTokens settings catalog (sessionOf settings catalog (Tokens.ofQuery lead).completed)
        (Tokens.ofQuery lead)).position := by
    rw [forward, hquery, List.getElem?_map, ← hshorter, readings_getElem?,
      reading_of_typed htyped, Option.map_some]
  have hback : backward settings catalog (lead ++ tail) =
      (readings settings catalog
        (sessionOf settings catalog (Tokens.ofQuery (lead ++ tail)).completed)
        ((Text.continuations lead tail.toList).reverse ++ lead :: shorter.reverse)).map
          Reading.position := by
    rw [backward, leaves_beginnings, hquery, List.reverse_append, List.reverse_cons,
      List.append_assoc]
    rfl
  rw [hforward, hback, ← hlonger, List.getElem?_map, readings_getElem?, ← List.map_take,
    readings_take]
  exact ⟨_, _, rfl, rfl, hrecalls.position_iff _⟩

/-- A filter is complete, but once a pipe was typed behind it and erased, nothing is known of it. -/
theorem filter_forgotten :
    (forward {} (.stocked ["logs"]) "source=logs | where a = b | ")[26]? =
        some .clauseComplete ∧
      (backward {} (.stocked ["logs"]) "source=logs | where a = b | ")[2]? = some .none ∧
      backward {} (.stocked ["logs"]) "source=logs | where a = b | " ≠
        (forward {} (.stocked ["logs"]) "source=logs | where a = b | ").reverse := by
  decide +kernel

end Reading
end PipedQuery
