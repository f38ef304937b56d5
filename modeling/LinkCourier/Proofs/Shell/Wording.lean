import Mathlib.Data.List.Basic
import LinkCourier.Proofs.Shell.Scripts
import LinkCourier.Proofs.Words

/-!
The wording of replies. Only one reply repeats what may look like another one, that to an unknown
verb; but a verb has no blank in it. So whatever the lines say, the text of a reply tells which
download it is about and what has become of it.
-/

namespace LinkCourier

/-- Whatever the answers to its calls, all replies of the script are worded. -/
def Script.Worded (x : Script Reply) : Prop :=
  x.Meets Reply.Worded (fun _ => True) fun _ _ => True

/-! ### Lines -/

namespace Shell

open Script

variable {α : Type}

lemma worded_loadModules (names : List Text) : (loadModules names).Worded := by
  rw [loadModules]
  split
  · exact meets_reply trivial
  · refine meets_forEach fun name _ => ⟨trivial, fun a _ => ?_⟩
    rcases a with _ | _ | _ <;> exact meets_reply trivial

lemma worded_unloadModules (names : List Text) : (unloadModules names).Worded := by
  rw [unloadModules]
  split
  · exact meets_reply trivial
  · refine meets_forEach fun name _ => ⟨trivial, fun a _ => ?_⟩
    rcases a with _ | _ <;> exact meets_reply trivial

lemma worded_listModules : listModules.Worded := by
  refine ⟨trivial, fun ms _ => ?_⟩
  rcases ms with _ | ⟨m, ms⟩
  · exact meets_reply trivial
  · exact meets_replies (List.forall_mem_map.2 fun _ _ => trivial)

lemma worded_download (k : Link.Reader α) (link : Text) : (download k link).Worded := by
  rw [download]
  split
  · exact meets_reply trivial
  split
  · exact meets_reply trivial
  split
  · exact meets_reply trivial
  · refine ⟨trivial, fun loaded _ => ?_⟩
    cases loaded with
    | false => exact meets_reply trivial
    | true => exact ⟨trivial, fun d _ => meets_reply trivial⟩

lemma worded_listDownloads : listDownloads.Worded := by
  refine ⟨trivial, fun ds _ => ?_⟩
  rcases ds with _ | ⟨d, ds⟩
  · exact meets_reply trivial
  · exact meets_replies (List.forall_mem_map.2 fun _ _ => trivial)

lemma worded_forIds (v : Verb) (args : List Text) {f : ℕ → Script Reply}
    (hf : ∀ id, (f id).Worded) : (forIds v args f).Worded := by
  rw [forIds]
  split
  · exact meets_reply trivial
  · have hbad : (replies (badIds v args)).Worded :=
      meets_replies (List.forall_mem_map.2 fun _ _ => trivial)
    exact hbad.andThen (meets_forEach fun id _ => hf id)

/-- **All replies to a line are worded.** -/
theorem worded_script (k : Link.Reader α) (l : Line) : (script k l).Worded := by
  rw [script]
  split
  · trivial
  rename_i verb hverb
  split
  · refine meets_reply fun hblank => ?_
    have hnot := Text.isAsciiBlank_of_mem_words (List.mem_of_head? hverb) hblank
    exact absurd hnot (by decide)
  · exact worded_loadModules l.args
  · exact worded_unloadModules l.args
  · exact worded_listModules
  · exact worded_download k l.rest
  · exact worded_listDownloads
  · refine worded_forIds .cancel l.args fun id => ⟨trivial, fun a _ => ?_⟩
    rcases a with _ | _ <;> exact meets_reply trivial
  · refine worded_forIds .pause l.args fun id => ⟨trivial, fun a _ => ?_⟩
    rcases a with _ | _ | _ <;> exact meets_reply trivial
  · refine worded_forIds .resume l.args fun id => ⟨trivial, fun a _ => ?_⟩
    rcases a with _ | _ | _ <;> exact meets_reply trivial
  · exact meets_replies
      (List.forall_mem_cons.2 ⟨trivial, List.forall_mem_map.2 fun _ _ => trivial⟩)

end Shell

end LinkCourier
