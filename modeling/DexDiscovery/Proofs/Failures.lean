import DexDiscovery.CommandLine.Run
import DexDiscovery.Proofs.Policies

/-!
# Why a discovery fails

A discovery in buffers can fail for two reasons.  A strict engine meets a malformed buffer: every
fault of an image, wherever it is found, is of this kind.  Or a class is matched whose descriptor
can be read but is not that of a class, so that its tests cannot be named.  The second reason lies
in the content of a buffer as well, but a lenient engine does not pass over it: such a class ends
the run for all buffers (`not_returns_of_misnamed`).

`buffers_outcome` says that there is no other reason, which class is to blame, and when exactly a
lenient engine returns.
-/

namespace DexDiscovery

/-! ## Classes that cannot be named -/

/-- The descriptors of classes that extend a reached class, and are not descriptors of a class. -/
def misnamed (files : List DexFile) (bases : Set Text) : Set Text :=
  {d | ∃ f ∈ files, ∃ c ∈ f.image.classes, (∃ s ∈ reached files bases, f.image.Extends c s) ∧
    f.image.descriptorOf c = .ok d ∧ ClassName.isClassDescriptor d = false}

theorem ClassName.dotted_eq_error {separator descriptor : Text} {failure : Failure} :
    dotted separator descriptor = .error failure ↔
      isClassDescriptor descriptor = false ∧ failure = .notClassDescriptor descriptor := by
  unfold dotted
  cases isClassDescriptor descriptor <;> simp [eq_comm]

/-- Reading a matched class fails because of its image or because of its descriptor. -/
theorem DexFile.classFault_dotted {f : DexFile} {separator : Text} {c : ClassDef}
    {failure : Failure} (h : f.ClassFault (ClassName.dotted separator) c failure) :
    (∃ error, failure = .ofDex error) ∨ ∃ d, f.image.descriptorOf c = .ok d ∧
      ClassName.isClassDescriptor d = false ∧ failure = .notClassDescriptor d := by
  cases h with
  | descriptor h => exact .inl ⟨_, rfl⟩
  | methods h => exact .inl ⟨_, rfl⟩
  | name hd h =>
    obtain ⟨not, rfl⟩ := ClassName.dotted_eq_error.mp h
    exact .inr ⟨_, hd, not, rfl⟩

namespace Sample

/-- A lenient engine fails although the other of two buffers holds a test. -/
theorem error_of_primitive :
    ((engine .lenient).discoverBuffers [dex "I" "testX", dex "LA;" "testX"] {}).1
      = .error (.notClassDescriptor "I") := by
  decide +kernel

end Sample

namespace Engine

variable {e : Engine} {files : List DexFile} {buffers : List Bytes} {journal : Journal}
  {failure : Failure}

/-! ## The search -/

/-- A search fails because of an image, if it is strict, or because of a misnamed class. -/
theorem failure_of_search (h : (e.search.run e.bases files journal).1 = .error failure) :
    (e.settings.policy = .strict ∧ ∃ error, failure = .ofDex error) ∨
      ∃ d ∈ misnamed files (Members e.bases), failure = .notClassDescriptor d := by
  -- a lenient search is not ended by an image
  have of_image (malformed : ∃ error, failure = .ofDex error) : e.settings.policy = .strict := by
    obtain ⟨error, rfl⟩ := malformed
    obtain ⟨_, _, _, passes⟩ := Search.exists_visit_of_error h
    cases policy : e.settings.policy with
    | strict => rfl
    | lenient => exact absurd rfl (passes policy (.image error))
  obtain ⟨f, hf, c, hc, ⟨_, error, _, _, rfl⟩ | ⟨edge, fault⟩⟩ :=
    Search.exists_culprit_of_error h
  · exact .inl ⟨of_image ⟨error, rfl⟩, error, rfl⟩
  · rcases DexFile.classFault_dotted fault with malformed | ⟨d, hd, not, rfl⟩
    · exact .inl ⟨of_image malformed, malformed⟩
    · exact .inr ⟨d, ⟨f, hf, c, hc, edge, hd, not⟩, rfl⟩

/-- A lenient search returns if and only if none of its scans ends at a misnamed class. -/
theorem exists_search_iff (lenient : e.settings.policy = .lenient) :
    (∃ c, (e.search.run e.bases files journal).1 = .ok c) ↔
      ∀ v ∈ e.search.visits e.bases files journal, ∀ d,
        v.answer ≠ .error (.notClassDescriptor d) := by
  constructor
  · rintro ⟨c, h⟩ v hv d failed
    obtain ⟨_, fault, malformed⟩ := (Search.advances h).tolerated v hv _ failed
    simp at malformed
  · intro named
    refine exists_ok_iff.mpr fun failure h => ?_
    rcases failure_of_search h with ⟨strict, _⟩ | ⟨d, _, rfl⟩
    · simp [lenient] at strict
    · obtain ⟨v, hv, failed, _⟩ := Search.exists_visit_of_error h
      exact named v hv d failed

/-! ## The whole run -/

section Encodable
variable (encodable : e.settings.separator.hasSurrogate = false)
include encodable

/-- With a separator that has an encoding, no result is refused. -/
theorem searchLoaded_eq_error_of_encodable {loaded : Loaded} :
    (e.searchLoaded loaded).1 = .error failure ↔
      (e.search.run e.bases loaded.files (loaded.journal.note .closureStarted)).1
        = .error failure := by
  simp [searchLoaded_eq_error, encodable]

theorem failure_of_discoverBuffers
    (h : (e.discoverBuffers buffers journal).1 = .error failure) :
    (e.settings.policy = .strict ∧ ∃ error, failure = .ofDex error) ∨
      ∃ d ∈ misnamed (filesOf buffers) (Members e.bases), failure = .notClassDescriptor d := by
  rcases discoverBuffers_eq_error.mp h with h | ⟨loaded, load, h⟩
  · exact .inl (exists_unreadable_of_error h)
  · rw [searchLoaded_eq_error_of_encodable encodable, (files_of_loaded load).1] at h
    exact failure_of_search h

theorem exists_discovery_iff {loaded : Loaded}
    (load : (e.loadBuffers buffers journal).1 = .ok loaded) :
    (∃ d, (e.discoverBuffers buffers journal).1 = .ok d) ↔
      ∃ c, (e.search.run e.bases loaded.files (loaded.journal.note .closureStarted)).1
        = .ok c := by
  rw [exists_ok_iff, exists_ok_iff]
  refine forall_congr' fun failure => not_congr ?_
  simp [discoverBuffers_eq_error, load, searchLoaded_eq_error_of_encodable encodable]

end Encodable

end Engine

/-! ## The exit code -/

namespace CommandLine

/-- An item that cannot be shown ends the run with the exit code of failures. -/
theorem Progress.exitCode_of_display {s : Progress} {item : Item} {outcome : Outcome}
    (h : s.display item = .error outcome) : outcome.exitCode = 1 := by
  rcases bind_eq_error.mp h with h | ⟨drawn, _, h⟩
  · obtain ⟨_, _, rfl⟩ := mapError_eq_error.mp h
    rfl
  · split at h
    · obtain rfl := Except.error.inj h
      rfl
    · exact absurd h pure_ne_error

/-- A run whose discovery has failed ends with the exit code of failures, whether the failure is
told to the user or not. -/
theorem Plan.exitCode_finish {p : Plan} {clock : Clock} {failure : Failure} {journal : Journal} :
    (p.finish clock (.error failure, journal)).exitCode = 1 := by
  simp only [finish, Except.bind]
  split
  · split
    · rename_i outcome _ told
      obtain ⟨s, _, told⟩ := bind_eq_ok.mp told
      obtain ⟨rfl, _⟩ := Prod.mk.inj (pure_eq_ok.mp told)
      rfl
    · rename_i outcome untold
      have code : outcome.exitCode = 1 := by
        rcases bind_eq_error.mp untold with untold | ⟨_, _, untold⟩
        · exact Progress.exitCode_of_display untold
        · exact absurd untold pure_ne_error
      exact code
  · rfl

end CommandLine

namespace Engine

/-- **Why a discovery in buffers fails.**  If the separator has an encoding, a run fails for one of
two reasons only: a strict engine meets a malformed image, or a class that extends a reached class
has a descriptor that is not that of a class.  A lenient engine always gets through loading, and
returns if and only if none of its scans ends at such a class.  Any failure gives the command the
exit code 1. -/
theorem buffers_outcome (e : Engine) (encodable : e.settings.separator.hasSurrogate = false)
    (buffers : List Bytes) (journal : Journal) :
    (∀ failure, (e.discoverBuffers buffers journal).1 = .error failure →
        (e.settings.policy = .strict ∧ ∃ error, failure = .malformed (.image error)) ∨
          ∃ d ∈ misnamed (filesOf buffers) (Members e.bases), failure = .notClassDescriptor d) ∧
      (e.settings.policy = .lenient →
        ∃ loaded, (e.loadBuffers buffers journal).1 = .ok loaded ∧
          ((∃ d, (e.discoverBuffers buffers journal).1 = .ok d) ↔
            ∀ v ∈ e.search.visits e.bases loaded.files (loaded.journal.note .closureStarted),
              ∀ d, v.answer ≠ .error (.notClassDescriptor d))) ∧
        ∀ (p : CommandLine.Plan) (clock : CommandLine.Clock) (failure : Failure) (log : Journal),
          (p.finish clock (.error failure, log)).exitCode = 1 := by
  refine ⟨fun failure h => failure_of_discoverBuffers encodable h, fun lenient => ?_,
    fun p clock failure log => CommandLine.Plan.exitCode_finish⟩
  obtain ⟨loaded, load⟩ : ∃ loaded, (e.loadBuffers buffers journal).1 = .ok loaded :=
    exists_loaded_of_lenient lenient
  exact ⟨loaded, load, (exists_discovery_iff encodable load).trans (exists_search_iff lenient)⟩

/-- The class `I` extends the test case of the platform, and a lenient engine fails because of
it. -/
theorem misnamed_of_primitive :
    ((Sample.engine .lenient).discoverBuffers
        [Sample.dex "I" "testX", Sample.dex "LA;" "testX"] {}).1
          = .error (.notClassDescriptor "I") ∧
      ("I" : Text) ∈ misnamed (filesOf [Sample.dex "I" "testX", Sample.dex "LA;" "testX"])
        (Members (Sample.engine .lenient).bases) := by
  have fails := Sample.error_of_primitive
  refine ⟨fails, ?_⟩
  rcases (buffers_outcome (Sample.engine .lenient) (by decide) _ _).1 _ fails with
    ⟨strict, _⟩ | ⟨d, misnamed, same⟩
  · exact absurd strict (by decide)
  · obtain rfl := Failure.notClassDescriptor.inj same
    exact misnamed

/-- A class that cannot be named ends a lenient run, and a strict one not as a malformed image
would: no engine can do without the condition that there is none. -/
theorem not_returns_of_misnamed :
    ¬ ∀ (e : Engine) (buffers : List Bytes) (journal : Journal),
      e.settings.separator.hasSurrogate = false →
        (e.settings.policy = .lenient → ∃ d, (e.discoverBuffers buffers journal).1 = .ok d) ∧
          (e.settings.policy = .strict →
            (∃ d, (e.discoverBuffers buffers journal).1 = .ok d) ∨
              ∃ fault, (e.discoverBuffers buffers journal).1 = .error (.malformed fault)) := by
  intro tolerant
  obtain ⟨d, returns⟩ := (tolerant (Sample.engine .lenient)
    [Sample.dex "I" "testX", Sample.dex "LA;" "testX"] {} (by decide)).1 rfl
  simp [Sample.error_of_primitive] at returns

end Engine

end DexDiscovery
