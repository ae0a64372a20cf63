import PipedQuery.Proofs.Divergence
import PipedQuery.Proofs.Reconnection

/-!
Looking at the fields of an index between two queries. The command that lists them fetches them as
a query would, and in the place of those that were held. The console is then like the one before but
for the fields that its engine holds (`alike_of_inspection`): no position changes, and the
suggestions change exactly where the value of a filter is expected whose field was recorded before a
query made up for the listing (`inspection_shows_iff`).
-/

set_option autoImplicit false
set_option relaxedAutoImplicit false

namespace PipedQuery.Shell

/-- The line is a query and not a command or blank. -/
def isQuery (line : String) : Bool :=
  !(Text.trim line).isEmpty && !Text.beginsWith "\\" (Text.trim line)

namespace Console

variable {transport : Transport} {start console : Console} {line argument : String}

/-- The console after lines of input. -/
def after (transport : Transport) (console : Console) (lines : List String) : Console :=
  lines.foldl (fun console line ↦ (console.turn transport line).console) console

/-- The suggestions that the console has for a query. -/
def batch (transport : Transport) (console : Console) (query : String) : Batch :=
  (console.engine.serve (console.gateway transport) query).batch

theorem turn_of_isQuery (hquery : isQuery line = true) (transport : Transport)
    (console : Console) : console.turn transport line = console.suggest transport line := by
  obtain ⟨hsome, hslash⟩ := Bool.and_eq_true_iff.mp hquery
  simp only [Bool.not_eq_true'] at hsome hslash
  simp [turn, hsome, hslash]

theorem after_eq {lines : List String} (hqueries : ∀ line ∈ lines, isQuery line = true)
    (transport : Transport) (console : Console) :
    console.after transport lines =
      console.withEngine (console.engine.served (console.gateway transport) lines) := by
  induction lines generalizing console with
  | nil => rfl
  | cons line rest ih =>
    obtain ⟨hline, hrest⟩ := List.forall_mem_cons.mp hqueries
    have hnext := ih hrest (console.suggest transport line).console
    rw [after, List.foldl_cons, turn_of_isQuery hline]
    exact hnext

theorem command_fields (hcommand : commandOf line = ("\\fields", argument)) :
    console.command transport line = console.showFields transport argument := by
  rcases commandOf_cases hcommand with ⟨rest, hcut, rfl⟩ | ⟨hcut, rfl, rfl⟩
  · simp only [command, hcut]
  · simp only [command, hcut]

/-- Looking at fields leaves the engine alone or makes it fetch them. -/
theorem showFields_cases (transport : Transport) (console : Console) (index : String) :
    (console.showFields transport index).console = console ∨
      ∃ name, (console.showFields transport index).console =
        console.withEngine
          (console.engine.resolve (console.gateway transport) [] [.fields name]).engine := by
  have hof : ∀ name, (console.showFieldsOf transport name).console = console ∨
      (console.showFieldsOf transport name).console = console.withEngine
        (console.engine.resolve (console.gateway transport) [] [.fields name]).engine := by
    intro name
    simp only [showFieldsOf]
    split
    · exact Or.inl rfl
    · exact Or.inr rfl
  unfold showFields
  split
  · split
    · exact (hof _).imp id fun hfetched ↦ ⟨_, hfetched⟩
    · exact Or.inl rfl
  · exact (hof index).imp id fun hfetched ↦ ⟨index, hfetched⟩

/-! ### The engine behind a console -/

theorem ready_step {later : Console} (hready : console.engine.Ready (console.gateway transport))
    (hstep : Step transport console later) : later.engine.Ready (later.gateway transport) := by
  cases hstep with
  | displays format showsTime => exact hready
  | serves query => exact hready.serve query
  | fetches requests => exact hready.resolve [] requests
  | selects suggestion => exact hready.select suggestion
  | resets => exact hready.reset
  | connects haccepted =>
    obtain ⟨client, -, rfl⟩ := reconnect_eq_ok haccepted
    exact Engine.ready_new _

/-- Between any two lines the engine waits for the next query, as long as the same transport answers
them all. -/
theorem ready_of_follows {options : Options} {coloured : Bool} {opening : List Output}
    (hbegin : begin options coloured = .ok (start, opening))
    (hfollows : Follows (· = transport) start console) :
    console.engine.Ready (console.gateway transport) := by
  refine hfollows.invariant (motive := fun later ↦ later.engine.Ready (later.gateway transport))
    ?_ ?_
  · rintro _ before later rfl hstep hready
    exact ready_step hready hstep
  · obtain ⟨-, -, hslot⟩ := begin_eq_ok hbegin
    rw [engine, hslot]
    exact Engine.ready_new _

/-- A console that has listed fields is the same but for the fields that its engine holds. -/
theorem alike_of_inspection {names : List String} {inspection : String}
    (hsupplied : console.engine.Supplied (console.gateway transport) names)
    (hinspection : commandOf (Text.trim inspection) = ("\\fields", argument)) :
    ∃ other, (console.turn transport inspection).console = console.withEngine other ∧
      console.engine.Alike other ∧ other.Supplied (console.gateway transport) names ∧
      other.session = console.engine.session := by
  rw [(turn_of_commandOf hinspection rfl transport console).1, command_fields hinspection]
  rcases console.showFields_cases transport argument with hsame | ⟨name, hfetched⟩
  · exact ⟨console.engine, hsame, ⟨rfl, rfl, rfl, rfl⟩, hsupplied, rfl⟩
  · exact ⟨_, hfetched, hsupplied.alike_resolve _ _, hsupplied.resolve _ _,
      Engine.resolve_session _ _ _⟩

/-- Listing the fields of an index between queries never changes a position. It changes the
suggestions for a later query exactly if that query expects the value of a filter, the listing
has replaced the fields of the active index or brought them back, and the field of the filter was
recorded before a query made up for that; then with one of the two consoles there are values and
with the other there are none. -/
theorem inspection_shows_iff {options : Options} {coloured : Bool} {opening : List Output}
    {names : List String} {inspection : String}
    (hbegin : begin options coloured = .ok (start, opening))
    (hfollows : Follows (· = transport) start console)
    (hloaded : console.engine.catalog.loaded = some names)
    (hanswers : ∀ index ∈ names,
      ∃ fetched, (console.gateway transport).fetch (.fields index) = .ok fetched)
    (hinspection : commandOf (Text.trim inspection) = ("\\fields", argument))
    (lines : List String) (hqueries : ∀ line ∈ lines, isQuery line = true) (query : String) :
    let inspected := (console.turn transport inspection).console
    let plainly := (console.after transport lines).batch transport query
    let otherwise := (inspected.after transport lines).batch transport query
    otherwise.position = plainly.position ∧
      (otherwise.items = plainly.items ↔
        ¬ (plainly.position = .whereValue ∧
          inspected.engine.heldFields ≠ console.engine.heldFields ∧
          Position.RecordsEarly (console.engine.positions (console.gateway transport) lines) ∧
          (plainly.items ≠ [] ∨ otherwise.items ≠ []))) := by
  have hsupplied : console.engine.Supplied (console.gateway transport) names :=
    ⟨ready_of_follows hbegin hfollows, hloaded, hanswers⟩
  obtain ⟨other, hturn, halike, hother, hsession⟩ := alike_of_inspection hsupplied hinspection
  intro inspected plainly otherwise
  have hinspected : inspected = console.withEngine other := hturn
  have hplainly : plainly = ((console.engine.served (console.gateway transport) lines).serve
      (console.gateway transport) query).batch := by
    unfold plainly
    rw [after_eq hqueries]
    rfl
  have hotherwise : otherwise = ((other.served (console.gateway transport) lines).serve
      (console.gateway transport) query).batch := by
    unfold otherwise
    rw [hinspected, after_eq hqueries]
    rfl
  rw [hplainly, hotherwise, hinspected]
  refine ⟨?_, halike.items_served_iff hsupplied hother (congrArg _ hsession) lines query⟩
  rw [Engine.serve_eq (hother.served lines).opened, Engine.serve_eq (hsupplied.served lines).opened]
  exact (halike.served hsupplied hother lines).position query

/-- A cluster with two indices that have the same field. -/
def furnished : Transport := fun request ↦
  match request.url.segments with
  | ["_cat", "indices"] => .answer 200 "[[\"logs\"], [\"jobs\"]]"
  | [index, "_mapping"] =>
    .answer 200 (MappingResponse.toJson [(index, [("size", .node (some "integer") none)])]).compact
  | _ => .answer 200 (Bucket.toAnswer [⟨.integer 7, 3⟩]).compact

/-- The console of a user who has begun a filter of `logs`. -/
def filtering : Console :=
  (localConsole 9200).withEngine
    { session := { activeIndex := some "logs", clause := .filter 6 }
      catalog :=
        { loaded := some ["logs", "jobs"]
          known := ["logs", "jobs"]
          resident := some ⟨"logs", [⟨"size", .integer⟩]⟩ }
      generation := 3 }

theorem follows_filtering : Follows (· = furnished) (localConsole 9200) filtering := by
  have hread : ((localConsole 9200).read furnished
      ["s", "source = logs ", "source = logs | where "]).console = filtering := by
    decide +kernel
  have hhere : Follows (· = furnished) (localConsole 9200) (localConsole 9200) := .here
  rw [← hread]
  exact hhere.read rfl _

theorem furnished_answers : ∀ index ∈ ["logs", "jobs"],
    ∃ fetched, (filtering.gateway furnished).fetch (.fields index) = .ok fetched := by
  have hok : ∀ index ∈ ["logs", "jobs"],
      ((filtering.gateway furnished).fetch (.fields index)).isOk = true := by
    decide +kernel
  intro index hindex
  have hanswer := hok index hindex
  cases hfetch : (filtering.gateway furnished).fetch (.fields index) with
  | ok fetched => exact ⟨fetched, rfl⟩
  | error fault =>
    rw [hfetch] at hanswer
    cases hanswer

/-- A user who goes back to the field finds the fields of the active index again. -/
theorem inspection_shows_recovered :
    begin localOptions false = .ok (localConsole 9200, (localConsole 9200).banner) ∧
      Follows (· = furnished) (localConsole 9200) filtering ∧
      (((filtering.turn furnished "\\fields jobs").console.after furnished
          ["source = logs | where size "]).batch furnished "source = logs | where ").items =
        ((filtering.after furnished ["source = logs | where size "]).batch furnished
          "source = logs | where ").items := by
  have hposition : ((filtering.after furnished ["source = logs | where size "]).batch furnished
      "source = logs | where ").position = .whereField := by
    decide +kernel
  have hinspection : commandOf (Text.trim "\\fields jobs") = ("\\fields", "jobs") := by
    decide +kernel
  obtain ⟨-, hitems⟩ := inspection_shows_iff begin_localOptions follows_filtering rfl furnished_answers
    hinspection ["source = logs | where size "] (by decide +kernel) "source = logs | where "
  refine ⟨begin_localOptions, follows_filtering, hitems.mpr fun hshows ↦ ?_⟩
  exact Position.noConfusion (hposition.symm.trans hshows.1)

/-- Between the keyword of a filter and its field, a look at another index costs the user the values
of that field. -/
theorem inspection_hides_values :
    Follows (· = furnished) (localConsole 9200) filtering ∧
      filtering.engine.catalog.loaded = some ["logs", "jobs"] ∧
      (∀ index ∈ ["logs", "jobs"],
        ∃ fetched, (filtering.gateway furnished).fetch (.fields index) = .ok fetched) ∧
      ((filtering.after furnished ["source = logs | where size "]).batch furnished
          "source = logs | where size = ").items.map Suggestion.tail = ["7"] ∧
      (((filtering.turn furnished "\\fields jobs").console.after furnished
          ["source = logs | where size "]).batch furnished
          "source = logs | where size = ").items = [] :=
  ⟨follows_filtering, rfl, furnished_answers, by decide +kernel, by decide +kernel⟩

end Console
end PipedQuery.Shell
