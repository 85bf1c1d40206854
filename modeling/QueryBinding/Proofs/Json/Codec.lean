import QueryBinding.Json.Codec
import QueryBinding.Json.Faultless
import QueryBinding.Proofs.Query.Checks

/-! # What codecs give back and what they insist on

Two laws of a codec, each passed on from the codecs of the parts to the codec of the whole. A codec
carries a value if it reads the value back from what it writes; a codec is strict if it reads no
value where a fault stands. -/

namespace QueryBinding

namespace Codec

variable {α : Type}

/-- A value is written as a piece of JSON and read back from it. -/
structure Carries (c : Codec α) (v : α) (j : Json) : Prop where
  write : c.write v = j
  read : c.read j.reading = .ok v

theorem carries_text (text : String) : Codec.text.Carries text (.string text) := ⟨rfl, rfl⟩

theorem carries_flag (value : Bool) : flag.Carries value (.bool value) := ⟨rfl, rfl⟩

theorem carries_size (n : UInt64) : size.Carries n (.number (.natural n)) := ⟨rfl, rfl⟩

theorem carries_none (c : Codec α) : (optional c).Carries none .null := ⟨rfl, rfl⟩

/-- What is null cannot be told from what is absent. -/
theorem carries_some {c : Codec α} {v : α} {j : Json} (h : c.Carries v j) (given : j ≠ .null) :
    (optional c).Carries (some v) j where
  write := h.write
  read := by
    have read : (optional c).read j.reading = (c.read j.reading).map some := by
      cases j with
      | null => exact absurd rfl given
      | _ => rfl
    rw [read, h.read]
    rfl

theorem carries_list {c : Codec α} {vs : List α} {js : List Json}
    (h : List.Forall₂ c.Carries vs js) : (list c).Carries vs (.array js) := by
  have write : vs.map c.write = js := by
    induction h with
    | nil => rfl
    | cons first _ ih => rw [List.map_cons, first.write, ih]
  have read : (Json.itemReadings js).mapM c.read = .ok vs := by
    clear write
    induction h with
    | nil => rfl
    | cons first _ ih =>
        rw [Json.itemReadings, List.mapM_cons, first.read, ih]
        rfl
  refine ⟨congrArg Json.array write, ?_⟩
  rw [Json.reading]
  simp only [list, read]
  rfl

theorem carries_choice {all : List α} {spelling : α → String} {v : α}
    (h : all.find? (spelling · == spelling v) = some v) :
    (choice all spelling).Carries v (.string (spelling v)) := by
  refine ⟨rfl, ?_⟩
  simp only [choice, Json.reading, pick, h]

end Codec

namespace Shape

variable {σ : Type}

/-- The members of a value as JSON, and how they fill a structure one after the other. -/
inductive Fills (target : σ) : List (Member σ) → List (String × Json) → σ → σ → Prop where
  | nil (v : σ) : Fills target [] [] v v
  | cons {m : Member σ} {ms : List (Member σ)} {j : Json} {js : List (String × Json)} {v v' : σ}
      {put : σ → σ} (write : m.write target = j) (read : m.read j.reading = .ok put)
      (rest : Fills target ms js (put v) v') : Fills target (m :: ms) ((m.name, j) :: js) v v'

theorem Fills.of {α : Type} {target v v' : σ} {name : String} {required : Bool} {c : Codec α}
    {get : σ → α} {put : α → σ → σ} {j : Json} {ms : List (Member σ)} {js : List (String × Json)}
    (h : c.Carries (get target) j) (rest : Fills target ms js (put (get target) v) v') :
    Fills target (.of name required c get put :: ms) ((name, j) :: js) v v' := by
  refine .cons (m := .of name required c get put) h.write ?_ rest
  simp only [Member.of, h.read]
  rfl

variable {s : Shape σ}

theorem member?_of_split {before after : List (Member σ)} {m : Member σ}
    (distinct : (s.members.map (·.name)).Nodup) (split : s.members = before ++ m :: after) :
    s.member? m.name = some m ∧ m.name ∉ before.map (·.name) := by
  have apart : m.name ∉ before.map (·.name) := by
    rw [split, List.map_append, List.map_cons] at distinct
    exact fun member => (List.nodup_append.mp distinct).2.2 _ member _ List.mem_cons_self rfl
  have others : before.find? (·.name == m.name) = none := by
    refine List.find?_eq_none.mpr fun other member => ?_
    simp only [beq_iff_eq]
    exact fun same => apart (same ▸ List.mem_map_of_mem member)
  refine ⟨?_, apart⟩
  rw [member?, split, List.find?_append, others, Option.none_or, List.find?_cons_of_pos (by simp)]

theorem takeMembers_of_fills {target v v' : σ} {before after : List (Member σ)}
    {js : List (String × Json)} (distinct : (s.members.map (·.name)).Nodup)
    (split : s.members = before ++ after) (h : Fills target after js v v') :
    s.takeMembers (Json.memberReadings js) (before.map (·.name)).reverse v =
      .ok ((s.members.map (·.name)).reverse, v') := by
  -- Along the members written, what has been seen are the names of those before, the last first.
  induction h generalizing before with
  | nil v =>
      rw [split, List.append_nil]
      rfl
  | @cons m ms j js v v' put write read rest ih =>
      obtain ⟨found, apart⟩ := member?_of_split distinct split
      have unseen : m.name ∉ (before.map (·.name)).reverse := by rwa [List.mem_reverse]
      have further : s.members = (before ++ [m]) ++ ms := by rw [split]; simp
      have others := ih further
      rw [List.map_append, List.reverse_append] at others
      rw [Json.memberReadings, takeMembers]
      simp only [found, unseen, if_false, read]
      exact others

/-- A structure is carried by the object of its members if these are told apart by name. -/
theorem carries {target : σ} {js : List (String × Json)}
    (distinct : (s.members.map (·.name)).Nodup) (h : Fills target s.members js s.absent target) :
    s.codec.Carries target (.object js) := by
  have write {ms : List (Member σ)} {js : List (String × Json)} {v v' : σ}
      (h : Fills target ms js v v') : ms.map (fun m => (m.name, m.write target)) = js := by
    induction h with
    | nil => rfl
    | cons write _ _ ih => rw [List.map_cons, write, ih]
  have taken := takeMembers_of_fills distinct (List.nil_append s.members).symm h
  have given : s.checkGiven (s.members.map (·.name)).reverse = .ok () := by
    have none_left : s.members.find?
        (fun m => m.required && m.name ∉ (s.members.map (·.name)).reverse) = none := by
      refine List.find?_eq_none.mpr fun m member => ?_
      have seen : m.name ∈ (s.members.map (·.name)).reverse :=
        List.mem_reverse.mpr (List.mem_map_of_mem member)
      simp [seen]
    rw [checkGiven, none_left]
  refine ⟨congrArg Json.object (write h), ?_⟩
  simp only [codec, Json.reading, ofObject]
  rw [List.map_nil, List.reverse_nil] at taken
  rw [taken]
  simp only [bind, Except.bind, Codec.checkEnding, given]

end Shape

namespace Codec

variable {α : Type}

theorem checkEnding_eq_ok_iff {ending : Option Fault} :
    checkEnding ending = .ok () ↔ ending = none := by
  cases ending <;> simp [checkEnding]

/-- A text is one value with nothing behind it. -/
theorem ofText_eq_ok_iff {c : Codec α} {text : String} {v : α} :
    c.ofText text = .ok v ↔ ∃ r, JsonReader.document text = (r, none) ∧ c.read r = .ok v := by
  unfold ofText
  cases JsonReader.document text with
  | mk r ending =>
      simp only [bind_eq_ok_iff, Prod.mk.injEq]
      constructor
      · rintro ⟨v, read, ⟨⟩, ended, ⟨⟩⟩
        exact ⟨r, ⟨rfl, checkEnding_eq_ok_iff.mp ended⟩, read⟩
      · rintro ⟨r, ⟨rfl, rfl⟩, read⟩
        exact ⟨v, read, (), rfl, rfl⟩

/-- Nothing is read where those who pass over it meet a fault. -/
def Strict (c : Codec α) : Prop := ∀ ⦃r : Reading⦄ ⦃v : α⦄, c.read r = .ok v → r.skipFault? = none

theorem strict_text : Codec.text.Strict := by
  intro r v h
  cases r <;> first | rfl | cases h

theorem strict_flag : flag.Strict := by
  intro r v h
  cases r <;> first | rfl | cases h

theorem strict_size : size.Strict := by
  intro r v h
  cases r <;> first | rfl | cases h

theorem strict_optional {c : Codec α} (h : c.Strict) : (optional c).Strict := by
  intro r v read
  simp only [optional] at read
  split at read
  · rfl
  · cases read
  · obtain ⟨_, read, -⟩ := map_eq_ok_iff.mp read
    exact h read

theorem itemsFault?_of_mapM {c : Codec α} (h : c.Strict) {items : List Reading} {vs : List α}
    (taken : items.mapM c.read = .ok vs) : Reading.itemsFault? items = none := by
  rw [mapM_eq_ok_iff] at taken
  induction taken with
  | nil => rfl
  | cons first _ ih =>
      rw [Reading.itemsFault?, h first, ih]
      rfl

theorem strict_list {c : Codec α} (h : c.Strict) : (list c).Strict := by
  intro r vs read
  simp only [list] at read
  split at read
  · next items ending =>
      obtain ⟨values, taken, read⟩ := bind_eq_ok_iff.mp read
      obtain ⟨⟨⟩, ended, ⟨⟩⟩ := bind_eq_ok_iff.mp read
      rw [checkEnding_eq_ok_iff] at ended
      rw [Reading.skipFault?, itemsFault?_of_mapM h taken, ended]
      rfl
  · cases read

theorem strict_choice (all : List α) (spelling : α → String) : (choice all spelling).Strict := by
  intro r v read
  simp only [choice] at read
  split at read
  · rfl
  · cases read
  · split at read
    · cases read
    · obtain ⟨picked, -, read⟩ := bind_eq_ok_iff.mp read
      obtain ⟨⟨⟩, empty, read⟩ := bind_eq_ok_iff.mp read
      split at read
      · obtain ⟨⟨⟩, ended, -⟩ := bind_eq_ok_iff.mp read
        rw [checkEnding_eq_ok_iff] at ended
        unfold checkUnit at empty
        split at empty
        · rw [ended]
          rfl
        · cases empty
      · cases read
  · cases read
  · cases read
  · cases read

end Codec

/-- A member with the law of its codec. -/
def Member.Strict {σ : Type} (m : Member σ) : Prop :=
  ∀ ⦃r : Reading⦄ ⦃put : σ → σ⦄, m.read r = .ok put → r.skipFault? = none

theorem Member.strict_of {σ α : Type} {name : String} {required : Bool} {c : Codec α}
    {get : σ → α} {put : α → σ → σ} (h : c.Strict) :
    (Member.of name required c get put).Strict := by
  intro r _ read
  obtain ⟨_, read, -⟩ := map_eq_ok_iff.mp read
  exact h read

namespace Shape

variable {σ : Type} {s : Shape σ}

theorem membersFault?_of_takeMembers (strict : ∀ m ∈ s.members, m.Strict)
    {members : List (Key × Reading)} {seen : List String} {v : σ} {taken : List String × σ}
    (h : s.takeMembers members seen v = .ok taken) : Reading.membersFault? members = none := by
  fun_induction takeMembers s members seen v with
  | case1 => rfl
  | case2 => cases h
  | case3 name r rest seen v m found unseen ih =>
      obtain ⟨put, read, h⟩ := bind_eq_ok_iff.mp h
      rw [Reading.membersFault?, strict m (List.mem_of_find?_eq_some found) read, ih put h]
      rfl
  | case4 => cases h
  | case5 name r rest seen v _ skipped ih =>
      rw [Reading.membersFault?, skipped, ih h]
      rfl
  | case6 => cases h

theorem itemsFault?_of_takeItems {ms : List (Member σ)} (strict : ∀ m ∈ ms, m.Strict)
    {index : Nat} {items : List Reading} {ending : Option Fault} {v v' : σ}
    (h : s.takeItems ms index items ending v = .ok v') :
    (Reading.itemsFault? items).or ending = none := by
  fun_induction takeItems s ms index items ending v with
  | case1 index ending v =>
      obtain ⟨⟨⟩, ended, -⟩ := bind_eq_ok_iff.mp h
      exact Codec.checkEnding_eq_ok_iff.mp ended
  | case2 => cases h
  | case3 m ms index item items ending v ih =>
      obtain ⟨put, read, h⟩ := bind_eq_ok_iff.mp h
      have others := ih put (fun m member => strict m (List.mem_cons_of_mem _ member)) h
      rw [Reading.itemsFault?, strict m List.mem_cons_self read, Option.none_or, others]
  | case4 => cases h
  | case5 => cases h
  | case6 m ms index v _ ih => rfl

theorem strict (strict : ∀ m ∈ s.members, m.Strict) : s.codec.Strict := by
  intro r v read
  simp only [codec] at read
  split at read
  · obtain ⟨taken, members, read⟩ := bind_eq_ok_iff.mp read
    obtain ⟨⟨⟩, ended, -⟩ := bind_eq_ok_iff.mp read
    rw [Codec.checkEnding_eq_ok_iff] at ended
    rw [Reading.skipFault?, membersFault?_of_takeMembers strict members, ended]
    rfl
  · exact itemsFault?_of_takeItems strict read
  · cases read

end Shape

end QueryBinding
