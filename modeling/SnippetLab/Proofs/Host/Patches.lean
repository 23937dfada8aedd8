import SnippetLab.Host.Encode
import SnippetLab.Proofs.Json.Written
import SnippetLab.Proofs.Session.Tables

/-!
# Patches of settings

A patch is laid over the settings in force: they are written as an object, the members of the patch
are put into it, and the whole is read again.  Only what has been read entirely takes the place of
the settings.

* `Json.overlay` — an object with the members of another one laid over it.
* `Settings.merge_eq_ok_iff` — **what a patch comes to**, setting by setting.
* `Settings.mergeInPlace` — the way through an object, in place; `run_mergeInPlace` says that it
  comes to `Settings.merge`, which takes the members over one by one, down to the failure that is
  reported.
* `patches_compose` — a patch that fails changes nothing, one that does not sets what it names, and
  one after another is the second laid over the first.
-/

namespace SnippetLab

open Json NameTable

/-! ## One object laid over another -/

namespace Json

/-- **An object with the members of another one laid over it.**  Where one of the two is no object
the first stays as it is. -/
def overlay : Json → Json → Json
  | .obj members, .obj others => .obj (NameTable.setAll members others)
  | target, _ => target

variable {v w : Json}

lemma WellFormed.sorted {members : List (Text × Json)} (h : WellFormed (.obj members)) :
    NameTable.Sorted members := by
  cases h with
  | obj sorted _ => exact sorted

lemma WellFormed.overlay (h : WellFormed v) (h' : WellFormed w) : WellFormed (v.overlay w) := by
  cases h with
  | @obj members sorted all =>
      cases h' with
      | @obj others sorted' all' =>
          exact .obj (NameTable.Sorted.setAll sorted others) fun m mem =>
            (NameTable.mem_of_mem_setAll mem).elim (all' m) (all m)
      | _ => exact .obj sorted all
  | null => exact .null
  | bool b => exact .bool b
  | int low high => exact .int low high
  | double finite => exact .double finite
  | str t => exact .str t
  | arr all => exact .arr all

/-- What is found in an object that another one has been laid over. -/
lemma get?_overlay {members : List (Text × Json)} (h : WellFormed w) (name : Text) :
    (overlay (.obj members) w).get? name = (w.get? name <|> NameTable.get? members name) := by
  cases w with
  | obj others => exact NameTable.get?_setAll h.sorted members name
  | _ => rfl

end Json

namespace Settings

/-! ## Settings by name -/

/-- The names of the settings, in their order. -/
def names : List Text :=
  ["checkBounds", "checkInfiniteLoops", "historyLimit", "maxOutputChars", "timeoutMs"]

/-- The value of a setting, as it is written. -/
def member? (s : Settings) (name : Text) : Option Json := NameTable.get? s.members name

variable {s t u : Settings} {name other : Text} {value : Json} {e : DecodeError}
variable {members others : List (Text × Json)}

lemma sorted_members (s : Settings) : Sorted s.members := by
  simp only [Sorted, members, List.pairwise_cons, List.mem_cons, List.not_mem_nil, or_false,
    forall_eq_or_imp, forall_eq, List.Pairwise.nil, and_true, IsEmpty.forall_iff, implies_true]
  decide

lemma toJson_eq (s : Settings) : s.toJson = .obj s.members := by
  rw [toJson, object, ofRows_of_sorted s.sorted_members]

lemma get?_toJson (s : Settings) (name : Text) : s.toJson.get? name = s.member? name := by
  rw [toJson_eq]
  rfl

lemma exists_member? (s : Settings) (h : name ∈ names) : ∃ value, s.member? name = some value := by
  simp only [names, List.mem_cons, List.not_mem_nil, or_false] at h
  rcases h with rfl | rfl | rfl | rfl | rfl <;> exact ⟨_, rfl⟩

/-- **Settings are what is written for them.** -/
lemma eq_of_member? (h : ∀ name ∈ names, s.member? name = t.member? name) : s = t := by
  have bounds := h "checkBounds" (by decide)
  have loops := h "checkInfiniteLoops" (by decide)
  have history := h "historyLimit" (by decide)
  have output := h "maxOutputChars" (by decide)
  have timeout := h "timeoutMs" (by decide)
  obtain ⟨_, _, _, _, _⟩ := s
  obtain ⟨_, _, _, _, _⟩ := t
  cases bounds
  cases loops
  cases history
  cases output
  cases timeout
  rfl

/-! ## One member taken over -/

lemma toBool_eq_ok {b : Bool} (h : toBool value = .ok b) : value = .bool b := by
  cases value <;> cases h
  rfl

lemma toWord_eq_ok {kind : Text} {n : Nat} (h : toWord kind value = .ok n) : value = nat n := by
  cases value with
  | int m =>
      simp only [toWord] at h
      split at h
      · cases h
      · cases h
        rw [nat, Int.toNat_of_nonneg (by omega)]
  | _ => cases h

lemma ok_of_map {α β ε : Type} {f : α → β} {x : Except ε α} {b : β} (h : x.map f = .ok b) :
    ∃ a, x = .ok a ∧ f a = b := by
  cases x with
  | error => cases h
  | ok a => exact ⟨a, rfl, Except.ok.inj h⟩

/-- **A member taken over** is the value of the setting of that name, and the other settings keep
theirs. -/
lemma member?_of_put (h : s.put name value = .ok t) (known : other ∈ names) :
    t.member? other = if other = name then some value else s.member? other := by
  simp only [names, List.mem_cons, List.not_mem_nil, or_false] at known
  unfold put at h
  split_ifs at h with named named named named named
  · subst named
    obtain ⟨b, read, rfl⟩ := ok_of_map h
    cases toBool_eq_ok read
    rcases known with rfl | rfl | rfl | rfl | rfl <;> rfl
  · subst named
    obtain ⟨b, read, rfl⟩ := ok_of_map h
    cases toBool_eq_ok read
    rcases known with rfl | rfl | rfl | rfl | rfl <;> rfl
  · subst named
    obtain ⟨n, read, rfl⟩ := ok_of_map h
    cases toWord_eq_ok read
    rcases known with rfl | rfl | rfl | rfl | rfl <;> rfl
  · subst named
    obtain ⟨n, read, rfl⟩ := ok_of_map h
    cases toWord_eq_ok read
    rcases known with rfl | rfl | rfl | rfl | rfl <;> rfl
  · subst named
    obtain ⟨n, read, rfl⟩ := ok_of_map h
    cases toWord_eq_ok read
    rcases known with rfl | rfl | rfl | rfl | rfl <;> rfl
  · cases h
    rw [if_neg]
    rintro rfl
    rcases known with rfl | rfl | rfl | rfl | rfl <;> contradiction

lemma toWord_nat (kind : Text) (n : Nat) : toWord kind (nat n) = .ok n := by
  simp [nat, toWord]

/-- What a setting is written as can be taken over, by any settings. -/
lemma put_of_member? (h : t.member? name = some value) : ∃ u, s.put name value = .ok u := by
  unfold put
  split_ifs with named named named named named
  · subst named
    cases h
    exact ⟨_, rfl⟩
  · subst named
    cases h
    exact ⟨_, rfl⟩
  · subst named
    cases h
    exact ⟨_, by rw [toWord_nat]; rfl⟩
  · subst named
    cases h
    exact ⟨_, by rw [toWord_nat]; rfl⟩
  · subst named
    cases h
    exact ⟨_, by rw [toWord_nat]; rfl⟩
  · exact ⟨_, rfl⟩

/-- A name that is no setting changes nothing. -/
lemma put_of_not_mem (h : name ∉ names) : s.put name value = .ok s := by
  simp only [names, List.mem_cons, List.not_mem_nil, or_false, not_or] at h
  obtain ⟨bounds, loops, history, output, timeout⟩ := h
  rw [put, if_neg bounds, if_neg loops, if_neg history, if_neg output, if_neg timeout]

/-- Taking a member over fails only where the settings that are wanted are written otherwise. -/
lemma exists_put (h : name ∈ names → t.member? name = some value) :
    ∃ u, s.put name value = .ok u := by
  by_cases known : name ∈ names
  · exact put_of_member? (h known)
  · exact ⟨s, put_of_not_mem known⟩

/-! ## Members taken over one by one -/

/-- Members taken over one by one. -/
def putAll (s : Settings) (members : List (Text × Json)) : Except DecodeError Settings :=
  members.foldlM (fun s (name, value) => s.put name value) s

lemma putAll_cons (s : Settings) (name : Text) (value : Json) (members : List (Text × Json)) :
    s.putAll ((name, value) :: members) = s.put name value >>= fun u => u.putAll members := rfl

lemma putAll_cons_eq_ok_iff : s.putAll ((name, value) :: members) = .ok t ↔
    ∃ u, s.put name value = .ok u ∧ u.putAll members = .ok t := by
  rw [putAll_cons]
  cases s.put name value with
  | error e => exact ⟨fun h => (by cases h), fun ⟨_, h, _⟩ => by cases h⟩
  | ok u => exact ⟨fun h => ⟨u, rfl, h⟩, fun ⟨_, same, h⟩ => by cases same; exact h⟩

/-- **What members in order come to**, setting by setting. -/
theorem putAll_eq_ok_iff (sorted : Sorted members) : s.putAll members = .ok t ↔
    ∀ name ∈ names, t.member? name = (NameTable.get? members name <|> s.member? name) := by
  induction members generalizing s with
  | nil =>
      constructor
      · intro h
        cases h
        exact fun _ _ => rfl
      · intro h
        rw [show s.putAll [] = .ok s from rfl, eq_of_member? h]
  | cons row rest ih =>
      obtain ⟨name, value⟩ := row
      have later : Sorted rest := (List.pairwise_cons.1 sorted).2
      rw [putAll_cons_eq_ok_iff]
      constructor
      · rintro ⟨u, put, rest⟩ other known
        rw [(ih later).1 rest other known, sorted.get?_cons_or, member?_of_put put known]
      · intro h
        -- the first member fits, because the settings that are wanted are written that way
        obtain ⟨u, put⟩ : ∃ u, s.put name value = .ok u := by
          refine exists_put (t := t) fun known => ?_
          rw [h name known, get?_cons, if_pos rfl]
          rfl
        refine ⟨u, put, (ih later).2 fun other known => ?_⟩
        rw [h other known, sorted.get?_cons_or, member?_of_put put known]

/-- **What a patch comes to**, setting by setting. -/
theorem merge_eq_ok_iff {patch : Json} (h : patch.WellFormed) : s.merge patch = .ok t ↔
    ∀ name ∈ names, t.member? name = (patch.get? name <|> s.member? name) := by
  cases patch with
  | obj members => exact putAll_eq_ok_iff h.sorted
  | _ =>
      refine ⟨fun h => by cases h; exact fun _ _ => rfl, fun h => ?_⟩
      rw [eq_of_member? h]
      rfl

/-! ## Failures -/

/-- What is wrong with a member, if it does not fit. -/
def misfit? (member : Text × Json) : Option DecodeError :=
  match standard.put member.1 member.2 with
  | .error e => some e
  | .ok _ => none

/-- **Whether a member fits does not depend on the settings.** -/
lemma put_eq_error_iff : s.put name value = .error e ↔ misfit? (name, value) = some e := by
  unfold misfit? put
  split_ifs
  · cases toBool value <;> simp [Except.map]
  · cases toBool value <;> simp [Except.map]
  · cases toWord "usize" value <;> simp [Except.map]
  · cases toWord "usize" value <;> simp [Except.map]
  · cases toWord "u64" value <;> simp [Except.map]
  · simp

/-- **The failure that is reported** is what is wrong with the first member that does not fit. -/
lemma putAll_eq_error_iff : s.putAll members = .error e ↔ members.findSome? misfit? = some e := by
  induction members generalizing s with
  | nil => exact ⟨fun h => (by cases h), fun h => by cases h⟩
  | cons row rest ih =>
      obtain ⟨name, value⟩ := row
      rw [putAll_cons, List.findSome?_cons]
      cases put : s.put name value with
      | error e' =>
          rw [put_eq_error_iff.1 put]
          exact ⟨fun h => by cases h; rfl, fun h => by cases h; rfl⟩
      | ok u =>
          have fits : misfit? (name, value) = none := by
            rw [Option.eq_none_iff_forall_ne_some]
            intro e' wrong
            rw [put_eq_error_iff.2 wrong] at put
            cases put
          rw [fits]
          exact ih

lemma fits_of_mem_members {member : Text × Json} (h : member ∈ s.members) :
    misfit? member = none := by
  obtain ⟨name, value⟩ := member
  obtain ⟨u, put⟩ := put_of_member? (s := standard) ((mem_iff_get? s.sorted_members).1 h)
  rw [misfit?, put]

/-! ## Laying over -/

/-- **Read settings from JSON.**  What is not given is as it is in the standard settings. -/
def ofJson (j : Json) : Except DecodeError Settings :=
  Json.record
    ⟨"EngineConfig",
      ["timeoutMs", "maxOutputChars", "historyLimit", "checkBounds", "checkInfiniteLoops"], []⟩
    standard put j

lemma ofJson_obj (members : List (Text × Json)) :
    ofJson (.obj members) = standard.putAll members := by
  show (standard.putAll members >>= fun filled => pure filled) = standard.putAll members
  exact bind_pure _

lemma ofJson_members (s : Settings) : ofJson (.obj s.members) = .ok s := by
  rw [ofJson_obj, putAll_eq_ok_iff s.sorted_members]
  intro name known
  obtain ⟨value, own⟩ := s.exists_member? known
  rw [show NameTable.get? s.members name = some value from own, own]
  rfl

/-- **Settings read back from what is written for them with a patch laid over it** are those that
taking over the members of the patch gives; a failure is the same, too. -/
theorem ofJson_overlay {patch : Json} (h : patch.WellFormed) :
    ofJson (s.toJson.overlay patch) = s.merge patch := by
  rw [toJson_eq]
  cases patch with
  | obj members =>
      have sorted := h.sorted
      have whole : Sorted (setAll s.members members) := s.sorted_members.setAll members
      rw [overlay, ofJson_obj]
      cases merged : s.merge (.obj members) with
      | error e =>
          have wrong : members.findSome? misfit? = some e := putAll_eq_error_iff.1 merged
          rw [putAll_eq_error_iff, ← wrong]
          -- the settings themselves fit, so what does not is in the patch
          refine whole.findSome?_congr sorted fun (name, value) misfit => ?_
          rw [mem_iff_get? whole, mem_iff_get? sorted, get?_setAll sorted]
          cases NameTable.get? members name with
          | some given => rfl
          | none =>
              refine ⟨fun own => ?_, fun none => by cases none⟩
              rw [fits_of_mem_members ((mem_iff_get? s.sorted_members).2 own)] at misfit
              cases misfit
      | ok t =>
          rw [putAll_eq_ok_iff whole]
          intro name known
          obtain ⟨value, own⟩ := s.exists_member? known
          rw [(merge_eq_ok_iff h).1 merged name known, get?_setAll sorted, own,
            show NameTable.get? s.members name = some value from own]
          show (NameTable.get? members name <|> some value) = _
          cases NameTable.get? members name <;> rfl
  | _ => exact s.ofJson_members

/-- **Lay a patch over settings in place**, by way of an object.  What is set last is only reached
if everything has been read. -/
def mergeInPlace (patch : Json) : EStateM DecodeError Settings Unit := do
  let current := (← get).toJson
  let read ← MonadExcept.ofExcept (ofJson (current.overlay patch))
  set read

lemma run_mergeInPlace {patch : Json} (h : patch.WellFormed) :
    (mergeInPlace patch).run s =
      match s.merge patch with
      | .ok t => .ok () t
      | .error e => .error e s := by
  simp only [mergeInPlace, EStateM.run_bind, EStateM.run_get, ofJson_overlay h]
  cases s.merge patch <;> rfl

lemma run_mergeInPlace_eq_ok_iff {patch : Json} (h : patch.WellFormed) :
    (mergeInPlace patch).run s = .ok () t ↔ s.merge patch = .ok t := by
  rw [run_mergeInPlace h]
  cases s.merge patch <;> simp

/-! ## One patch after another -/

/-- The members that are settings. -/
def known (members : List (Text × Json)) : List (Text × Json) :=
  members.filter fun m => m.1 ∈ names

/-- Members that are no settings change nothing. -/
lemma putAll_known (s : Settings) (members : List (Text × Json)) :
    s.putAll (known members) = s.putAll members := by
  induction members generalizing s with
  | nil => rfl
  | cons row rest ih =>
      obtain ⟨name, value⟩ := row
      by_cases setting : name ∈ names
      · rw [known, List.filter_cons_of_pos (by simpa using setting), putAll_cons, putAll_cons]
        exact congrArg _ (funext ih)
      · rw [known, List.filter_cons_of_neg (by simpa using setting),
          putAll_cons, put_of_not_mem setting]
        exact ih s

/-- **One patch after another is the second laid over the first.** -/
lemma merge_overlay {p q : Json} (h : p.WellFormed) (h' : q.WellFormed)
    (object : p = .obj members) (merged : s.merge p = .ok t) :
    t.merge q = .ok u ↔ s.merge (p.overlay q) = .ok u := by
  subst object
  rw [merge_eq_ok_iff h', merge_eq_ok_iff (h.overlay h')]
  refine forall₂_congr fun name setting => ?_
  rw [get?_overlay h', (merge_eq_ok_iff h).1 merged name setting]
  cases q.get? name <;> rfl

end Settings

/-- **Patches are atomic, and they compose.**  A patch laid over settings in place comes to what
taking over its members comes to, and if it fails the settings are those that were.  If it does not,
every setting that the patch names has the value the patch gives and every other keeps its own, and
this is all that success takes.  A patch that is no object has no effect, nor have names that are no
settings.  After a patch has been laid over settings, another one does what the second laid over the
first does to the settings as they were. -/
theorem patches_compose (s : Settings) {p : Json} (h : p.WellFormed) :
    (∀ e t, (Settings.mergeInPlace p).run s = .error e t ↔ s.merge p = .error e ∧ t = s) ∧
    (∀ t, (Settings.mergeInPlace p).run s = .ok () t ↔ s.merge p = .ok t) ∧
    (∀ t, s.merge p = .ok t ↔
      ∀ name ∈ Settings.names, t.toJson.get? name = (p.get? name <|> s.toJson.get? name)) ∧
    ((∀ members, p ≠ .obj members) → s.merge p = .ok s) ∧
    ∀ members, p = .obj members →
      s.merge (.obj (Settings.known members)) = s.merge p ∧
      ∀ t, s.merge p = .ok t → ∀ q : Json, q.WellFormed →
        ∀ u, t.merge q = .ok u ↔ s.merge (p.overlay q) = .ok u := by
  refine ⟨fun e t => ?_, fun t => Settings.run_mergeInPlace_eq_ok_iff h, fun t => ?_, fun none => ?_,
    fun members object => ⟨?_, fun t merged q h' u => ?_⟩⟩
  · rw [Settings.run_mergeInPlace h]
    cases s.merge p <;> simp [eq_comm]
  · simp only [Settings.get?_toJson]
    exact Settings.merge_eq_ok_iff h
  · cases p with
    | obj members => exact absurd rfl (none members)
    | _ => rfl
  · subst object
    exact s.putAll_known members
  · exact Settings.merge_overlay h h' object merged

/-- Two patches with a name in common, a name that is no setting, and a patch that does not fit. -/
theorem patches_compose_twice :
    let p : Json := .obj [("color", .str "red"), ("timeoutMs", .int 2000)]
    let q : Json := .obj [("checkBounds", .bool false), ("timeoutMs", .int 7)]
    let bad : Json := .obj [("checkBounds", .bool false), ("historyLimit", .int (-1))]
    let first : Settings := { Settings.standard with timeoutMs := 2000 }
    let last : Settings := { Settings.standard with timeoutMs := 7, checkBounds := false }
    (Settings.mergeInPlace p).run .standard = .ok () first ∧ first.merge q = .ok last ∧
      Settings.standard.merge (p.overlay q) = .ok last ∧
      (Settings.mergeInPlace bad).run first = .error (.wrongValue (-1) "usize") first := by
  intro p q bad first last
  have hp : p.WellFormed := by
    refine .obj (by decide) fun m mem => ?_
    simp only [List.mem_cons, List.not_mem_nil, or_false] at mem
    rcases mem with rfl | rfl
    · exact .str _
    · exact .int (by decide) (by decide)
  have hq : q.WellFormed := by
    refine .obj (by decide) fun m mem => ?_
    simp only [List.mem_cons, List.not_mem_nil, or_false] at mem
    rcases mem with rfl | rfl
    · exact .bool _
    · exact .int (by decide) (by decide)
  have hbad : bad.WellFormed := by
    refine .obj (by decide) fun m mem => ?_
    simp only [List.mem_cons, List.not_mem_nil, or_false] at mem
    rcases mem with rfl | rfl
    · exact .bool _
    · exact .int (by decide) (by decide)
  obtain ⟨-, ok, -, -, compose⟩ := patches_compose .standard hp
  obtain ⟨error, -⟩ := patches_compose first hbad
  exact ⟨(ok first).2 rfl, rfl, ((compose _ rfl).2 first rfl q hq last).1 rfl,
    (error _ _).2 ⟨rfl, rfl⟩⟩

end SnippetLab
