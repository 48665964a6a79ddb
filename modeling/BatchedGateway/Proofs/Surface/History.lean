/- Attempts to build batches, one after the other and whatever comes of each: as long as no id is
assigned twice, the tables hold what was laid out and the last answer for each batch. -/
import BatchedGateway.Proofs.Surface.Failure

namespace BatchedGateway

/-- An attempt to build a batch, with all that it is made with. -/
structure Attempt where
  planner : Planner
  provision : Provisioner
  batch : Batch Operation
  name : String

namespace Attempt

def run (a : Attempt) (s : Progress) : Except BuildError BuiltBatch × Progress :=
  materialize a.planner a.provision a.batch a.name s

/-- The attempt ends at an id that has a batch already. -/
def clashes (a : Attempt) (s : Progress) : Bool :=
  match (a.run s).1 with
  | .error (.duplicateAssignment _ _ _) => true
  | _ => false

/-- The ids that the attempt lays out resources for, if it succeeds, each with the batch. -/
def laidOut (a : Attempt) (s : Progress) : List (String × Nat) :=
  match (a.run s).1 with
  | .ok built => built.surface.operations.map (·, a.batch.index)
  | .error _ => []

/-- The URL that the attempt is given for its surface, if it makes a call and that succeeds. -/
def answered (a : Attempt) (s : Progress) : Option (Nat × String) :=
  match (a.run s).2.calls[s.calls.length]? with
  | none => none
  | some surface =>
      match a.provision s.calls.length surface with
      | .error _ => none
      | .ok url => some (surface.index, url)

end Attempt

/-- Attempts in order, each with what had been done before it. -/
def history : List Attempt → Progress → List (Attempt × Progress)
  | [], _ => []
  | a :: rest, s => (a, s) :: history rest (a.run s).2

/-- What has been done after attempts, failed ones included. -/
def afterAll : List Attempt → Progress → Progress
  | [], s => s
  | a :: rest, s => afterAll rest (a.run s).2

/-- All that attempts laid out, in order. -/
def allLaidOut (attempts : List Attempt) (s : Progress) : List (String × Nat) :=
  (history attempts s).flatMap fun step => step.1.laidOut step.2

/-- All URLs that attempts were given, in order. -/
def allAnswered (attempts : List Attempt) (s : Progress) : List (Nat × String) :=
  (history attempts s).flatMap fun step => (step.1.answered step.2).toList

/-- The last URL that was given for a batch. -/
def lastAnswer (answers : List (Nat × String)) (b : Nat) : Option String :=
  (answers.reverse.find? fun answer => answer.1 = b).map (·.2)

/-- Tables that tell of each id laid out, once, and of the last answer for each batch. -/
structure Tables.Records (t : Tables) (laid : List (String × Nat)) (answers : List (Nat × String)) :
    Prop where
  distinct : (laid.map (·.1)).Nodup
  batchFor_iff : ∀ id b, t.batchFor id = some b ↔ (id, b) ∈ laid
  served : ∀ id b, t.batchFor id = some b → ∃ url, t.endpointFor b = some url
  used : ∀ b url, t.endpointFor b = some url → ∃ id, t.batchFor id = some b
  endpointFor_eq : ∀ b, t.endpointFor b = lastAnswer answers b

theorem lastAnswer_concat (answers : List (Nat × String)) (b b' : Nat) (url : String) :
    lastAnswer (answers ++ [(b', url)]) b =
      if b = b' then some url else lastAnswer answers b := by
  rw [lastAnswer, List.reverse_append, List.reverse_singleton, List.singleton_append,
    List.find?_cons]
  by_cases h : b = b'
  · simp [h]
  · simp [h, Ne.symm h, lastAnswer]

namespace Tables

variable {t : Tables} {laid : List (String × Nat)} {answers : List (Nat × String)}

theorem records_empty : (∅ : Tables).Records [] [] where
  distinct := List.nodup_nil
  batchFor_iff _ _ := ⟨fun h => (nomatch h), fun h => (nomatch h)⟩
  served _ _ h := nomatch h
  used _ _ h := nomatch h
  endpointFor_eq _ := rfl

/-- An id leads to an endpoint as soon as it leads to a batch. -/
theorem Records.resolve_eq_none_iff (h : t.Records laid answers) (id : String) :
    t.resolve id = none ↔ t.batchFor id = none := by
  rw [resolve]
  cases hid : t.batchFor id with
  | none => simp
  | some b =>
      obtain ⟨url, hurl⟩ := h.served id b hid
      simp [hurl]

/-- Entering a surface of fresh ids is recorded. -/
theorem Records.enter (h : t.Records laid answers) {surface : Surface}
    (hroutes : surface.operations ≠ []) (hfresh : t.Fresh surface.operations) (url : String) :
    (t.enter surface url).Records (laid ++ surface.operations.map (·, surface.index))
      (answers ++ [(surface.index, url)]) where
  distinct := by
    rw [List.map_append, List.map_map]
    refine List.nodup_append.mpr ⟨h.distinct, by simpa [Function.comp_def] using hfresh.nodup, ?_⟩
    rintro id hid _ hid' rfl
    obtain ⟨⟨_, b⟩, hmem, rfl⟩ := List.mem_map.mp hid
    have hold := (h.batchFor_iff _ b).mpr hmem
    have hnew := hfresh.unassigned _ (by simpa [Function.comp_def] using hid')
    cases hnew.symm.trans hold
  batchFor_iff id b := by
    have hentered : (id, b) ∈ surface.operations.map (·, surface.index) ↔
        id ∈ surface.operations ∧ surface.index = b := by
      rw [List.mem_map]
      constructor
      · rintro ⟨_, hid, heq⟩
        cases heq
        exact ⟨hid, rfl⟩
      · rintro ⟨hid, rfl⟩
        exact ⟨id, hid, rfl⟩
    rw [batchFor_enter, List.mem_append, ← h.batchFor_iff, hentered]
    by_cases hid : id ∈ surface.operations
    · simp [hid, hfresh.unassigned id hid]
    · simp [hid]
  served id b hb := by
    rw [batchFor_enter] at hb
    rw [endpointFor_enter]
    by_cases hindex : b = surface.index
    · exact ⟨url, if_pos hindex⟩
    · split at hb
      · cases hb
        exact absurd rfl hindex
      · rw [if_neg hindex]
        exact h.served id b hb
  used b url' hurl := by
    rw [endpointFor_enter] at hurl
    split at hurl
    · rename_i hindex
      obtain ⟨id, hid⟩ := List.exists_mem_of_ne_nil _ hroutes
      exact ⟨id, by rw [batchFor_enter, if_pos hid, hindex]⟩
    · obtain ⟨id, hid⟩ := h.used b url' hurl
      -- an id that had a batch is not among those that are entered
      have hold : id ∉ surface.operations := fun hmem => by
        rw [hfresh.unassigned id hmem] at hid
        cases hid
      exact ⟨id, by rw [batchFor_enter, if_neg hold, hid]⟩
  endpointFor_eq b := by
    rw [endpointFor_enter, lastAnswer_concat, h.endpointFor_eq]

end Tables

namespace Attempt

variable {a : Attempt} {s : Progress} {laid : List (String × Nat)} {answers : List (Nat × String)}

/-- An attempt that does not clash leaves the tables alone and has nothing to show, or enters a
surface of fresh ids with the URL it was given for it. -/
theorem idle_or_enters (h : a.clashes s = false) :
    ((a.run s).2.tables = s.tables ∧ a.laidOut s = [] ∧ a.answered s = none) ∨
      ∃ surface url, surface.operations ≠ [] ∧ s.tables.Fresh surface.operations ∧
        (a.run s).2.tables = s.tables.enter surface url ∧
        a.laidOut s = surface.operations.map (·, surface.index) ∧
        a.answered s = some (surface.index, url) := by
  cases hrun : a.run s with
  | mk result s' =>
      cases result with
      | ok built =>
          rw [laidOut, answered, hrun]
          cases materialize_eq_ok hrun with
          | nowhere hroutes =>
              exact .inl ⟨rfl, by simp [Planner.operations_surfaceOf, hroutes], by simp⟩
          | @served url hroutes hanswer hfresh =>
              rw [← Planner.operations_surfaceOf a.batch a.name] at hroutes hfresh
              exact .inr ⟨_, url, hroutes, hfresh, rfl, rfl, by simp [hanswer]⟩
      | error e =>
          rw [laidOut, answered, hrun]
          cases materialize_eq_error.mp hrun with
          | stopped hstop => exact .inl ⟨rfl, rfl, by simp⟩
          | refused hgoes hroutes hanswer => exact .inl ⟨rfl, rfl, by simp [hanswer]⟩
          | clashed hgoes hanswer hclash =>
              rw [clashes, hrun] at h
              cases h

/-- What an attempt does to the tables is what it has to show. -/
theorem records_run (hrecords : s.tables.Records laid answers) (h : a.clashes s = false) :
    (a.run s).2.tables.Records (laid ++ a.laidOut s) (answers ++ (a.answered s).toList) := by
  rcases idle_or_enters h with
    ⟨htables, hlaid, hanswered⟩ | ⟨surface, url, hroutes, hfresh, htables, hlaid, hanswered⟩
  · rw [htables, hlaid, hanswered, Option.toList_none, List.append_nil, List.append_nil]
    exact hrecords
  · rw [htables, hlaid, hanswered]
    exact hrecords.enter hroutes hfresh url

end Attempt

/-- What attempts do to the tables, on top of what these record already. -/
theorem records_afterAll {attempts : List Attempt} {s : Progress} {laid : List (String × Nat)}
    {answers : List (Nat × String)} (hrecords : s.tables.Records laid answers)
    (h : ∀ step ∈ history attempts s, step.1.clashes step.2 = false) :
    (afterAll attempts s).tables.Records (laid ++ allLaidOut attempts s)
      (answers ++ allAnswered attempts s) := by
  induction attempts generalizing s laid answers with
  | nil => simpa [afterAll, allLaidOut, allAnswered, history] using hrecords
  | cons a rest ih =>
      obtain ⟨hfirst, hrest⟩ := List.forall_mem_cons.mp h
      have hnext := ih (a.records_run hrecords hfirst) hrest
      rw [List.append_assoc, List.append_assoc] at hnext
      exact hnext

/-- After attempts of any kind, none of which clashes, the tables have an entry for each id that was
laid out, and for no other, and each batch that has an id is served at the URL it was given last. -/
theorem tables_afterAll (attempts : List Attempt) (s : Progress) (hempty : s.tables = ∅)
    (h : ∀ step ∈ history attempts s, step.1.clashes step.2 = false) :
    (afterAll attempts s).tables.Records (allLaidOut attempts s) (allAnswered attempts s) ∧
      ∀ id, (afterAll attempts s).tables.resolve id = none ↔
        (afterAll attempts s).tables.batchFor id = none := by
  have hrecords := records_afterAll (hempty ▸ Tables.records_empty) h
  exact ⟨hrecords, hrecords.resolve_eq_none_iff⟩

/-- Attempts for two batches of one index, the second of which is turned down at first. -/
def sharedIndex : List Attempt :=
  let first : Batch Operation := ⟨5, [⟨"a", "/a", .get, "a", .query⟩]⟩
  let second : Batch Operation := ⟨5, [⟨"b", "/b", .get, "b", .query⟩]⟩
  [⟨bothRouted, fun _ _ => .ok "https://first.example", first, "p-batch5"⟩,
    ⟨bothRouted, fun _ _ => .error (.other "full"), second, "p-batch5"⟩,
    ⟨bothRouted, fun _ _ => .ok "https://second.example", second, "p-batch5"⟩]

/-- The batch is served at the URL that it was given last, for the operations of both attempts. -/
theorem tables_afterAll_sharedIndex :
    (∀ step ∈ history sharedIndex {}, step.1.clashes step.2 = false) ∧
      (afterAll sharedIndex {}).tables.batchFor "a" = some 5 ∧
      (afterAll sharedIndex {}).tables.batchFor "b" = some 5 ∧
      (afterAll sharedIndex {}).tables.endpointFor 5 = some "https://second.example" := by
  have hclash : ∀ step ∈ history sharedIndex {}, step.1.clashes step.2 = false := by decide +kernel
  obtain ⟨hrecords, -⟩ := tables_afterAll sharedIndex {} rfl hclash
  have hlaid : allLaidOut sharedIndex {} = [("a", 5), ("b", 5)] := by decide +kernel
  have hlast : lastAnswer (allAnswered sharedIndex {}) 5 = some "https://second.example" := by
    decide +kernel
  refine ⟨hclash, (hrecords.batchFor_iff "a" 5).mpr ?_, (hrecords.batchFor_iff "b" 5).mpr ?_,
    (hrecords.endpointFor_eq 5).trans hlast⟩
  · simp [hlaid]
  · simp [hlaid]

end BatchedGateway
