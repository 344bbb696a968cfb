import RevPilot.Library.Runs
import Mathlib.Data.Set.Insert
import Mathlib.Logic.Function.Basic
import Mathlib.Order.Lattice

/-! Registers fed by messages that may arrive repeatedly and in any order. A
message is taken the first time its identifier arrives, and its value then
replaces what its register holds unless that is newer. Whether the registers
depend on the order of arrival is decided by the messages alone. -/
namespace RevPilot.Library.LatestWins
open Runs

universe u v w x

/-- A message without an entry is only remembered. -/
structure Message (I : Type u) (T : Type v) (V : Type w) where
  id : I
  entry : Option (T × V)

structure Registers (I : Type u) (T : Type v) (V : Type w) where
  seen : Set I
  held : T → Option V

variable {I : Type u} {T : Type v} {V : Type w} {K : Type x} {A : Type*}

def start : Registers I T V := ⟨∅,fun _ => none⟩

theorem exists_first {ms : List (Message I T V)} {m : Message I T V} (inside : m ∈ ms) :
    ∃ pre first post, ms = pre ++ first :: post ∧ first.id = m.id ∧ ∀ earlier ∈ pre, earlier.id ≠ m.id := by
  have listed : m.id ∈ ms.map Message.id := List.mem_map_of_mem inside
  obtain ⟨front,back,whole,absent⟩ := List.eq_append_cons_of_mem listed
  obtain ⟨pre,rest,rfl,rfl,tail⟩ := List.map_eq_append_iff.mp whole
  obtain ⟨first,post,rfl,same,_⟩ := List.map_eq_cons_iff.mp tail
  refine ⟨pre,first,post,rfl,same,?_⟩
  intro earlier before equal
  exact absent (List.mem_map.mpr ⟨earlier,before,equal⟩)

variable [DecidableEq T] [LinearOrder K] (key : V → K)

/-- What a register holds after a value has arrived. -/
def newest (held : Option V) (v : V) : V :=
  match held with
  | none => v
  | some last => if key v < key last then last else v

open Classical in
noncomputable def take (r : Registers I T V) (m : Message I T V) : Registers I T V :=
  if m.id ∈ r.seen then r
  else
    { seen := insert m.id r.seen
      held := match m.entry with
        | none => r.held
        | some (t,v) => Function.update r.held t (some (newest key (r.held t) v)) }

theorem take_seen (r : Registers I T V) (m : Message I T V) : (take key r m).seen = insert m.id r.seen := by
  by_cases old : m.id ∈ r.seen
  · simp [take,old]
  · simp [take,old]

theorem take_old {r : Registers I T V} {m : Message I T V} (old : m.id ∈ r.seen) : take key r m = r := by
  simp [take,old]

theorem take_new {r : Registers I T V} {m : Message I T V} {t : T} {v : V} (new : m.id ∉ r.seen)
    (entry : m.entry = some (t,v)) : (take key r m).held t = some (newest key (r.held t) v) := by
  simp [take,new,entry]

@[simp] theorem newest_none (v : V) : newest key none v = v := rfl

theorem newest_some (last v : V) : newest key (some last) v = if key v < key last then last else v := rfl

theorem newest_cases (held : Option V) (v : V) : newest key held v = v ∨ held = some (newest key held v) := by
  cases held with
  | none => exact .inl rfl
  | some last =>
    rw [newest_some]
    by_cases older : key v < key last
    · exact .inr (by rw [if_pos older])
    · exact .inl (if_neg older)

theorem le_newest (held : Option V) (v : V) : key v ≤ key (newest key held v) := by
  cases held with
  | none => simp
  | some last =>
    rw [newest_some]
    split
    next older => exact older.le
    next => exact le_rfl

theorem last_le_newest (last v : V) : key last ≤ key (newest key (some last) v) := by
  rw [newest_some]
  split
  next => exact le_rfl
  next newer => exact not_lt.mp newer

/-- One message changes a register only by its own value, and never to an older one. -/
theorem take_held (r : Registers I T V) (m : Message I T V) (t : T) :
    (take key r m).held t = r.held t ∨
    ∃ v, m.entry = some (t,v) ∧ (take key r m).held t = some (newest key (r.held t) v) := by
  by_cases old : m.id ∈ r.seen
  · exact .inl (by rw [take_old key old])
  · cases entry : m.entry with
    | none => exact .inl (by simp [take,old,entry])
    | some pair =>
      obtain ⟨target,v⟩ := pair
      by_cases here : t = target
      · subst here
        exact .inr ⟨v,rfl,take_new key old entry⟩
      · exact .inl (by simp [take,old,entry,here])

theorem run_seen (r : Registers I T V) (ms : List (Message I T V)) (i : I) :
    i ∈ (run (take key) r ms).seen ↔ i ∈ r.seen ∨ ∃ m ∈ ms, m.id = i := by
  induction ms generalizing r with
  | nil => simp
  | cons m ms ih =>
    simp only [run_cons,ih,take_seen,Set.mem_insert_iff,List.mem_cons,exists_eq_or_imp,@eq_comm _ i]
    tauto

theorem run_old {r : Registers I T V} {ms : List (Message I T V)} (old : ∀ m ∈ ms, m.id ∈ r.seen) :
    run (take key) r ms = r := by
  induction ms with
  | nil => rfl
  | cons m ms ih =>
    rw [run_cons,take_old key (old m List.mem_cons_self)]
    exact ih (fun other inside => old other (List.mem_cons_of_mem _ inside))

/-- What a register holds at the end came from a message for it. -/
theorem run_origin {ms : List (Message I T V)} {t : T} {v : V}
    (final : (run (take key) start ms).held t = some v) : ∃ m ∈ ms, m.entry = some (t,v) := by
  induction ms using List.reverseRecOn generalizing v with
  | nil => simp [start] at final
  | append_singleton ms m ih =>
    rw [run_concat] at final
    have earlier (held : (run (take key) start ms).held t = some v) : ∃ m' ∈ ms ++ [m], m'.entry = some (t,v) := by
      obtain ⟨source,inside,entry⟩ := ih held
      exact ⟨source,List.mem_append_left _ inside,entry⟩
    rcases take_held key (run (take key) start ms) m t with kept | ⟨own,entry,replaced⟩
    · exact earlier (kept ▸ final)
    · obtain rfl : newest key ((run (take key) start ms).held t) own = v := by
        rw [replaced] at final
        exact Option.some.inj final
      rcases newest_cases key ((run (take key) start ms).held t) own with mine | before
      · exact ⟨m,by simp,by rw [entry,mine]⟩
      · exact earlier before

theorem run_grows {r : Registers I T V} {t : T} {v : V} (held : r.held t = some v) (ms : List (Message I T V)) :
    ∃ w, (run (take key) r ms).held t = some w ∧ key v ≤ key w := by
  induction ms generalizing r v with
  | nil => exact ⟨v,held,le_refl _⟩
  | cons m ms ih =>
    rcases take_held key r m t with kept | ⟨own,_,replaced⟩
    · exact ih (kept.trans held)
    · rw [held] at replaced
      obtain ⟨w,final,newer⟩ := ih replaced
      exact ⟨w,final,(last_le_newest key v own).trans newer⟩

/-- A message that is the first with its identifier is not newer than what is held at the end. -/
theorem run_first {pre post : List (Message I T V)} {m : Message I T V} {t : T} {v : V}
    (first : ∀ earlier ∈ pre, earlier.id ≠ m.id) (entry : m.entry = some (t,v)) :
    ∃ w, (run (take key) start (pre ++ m :: post)).held t = some w ∧ key v ≤ key w := by
  have new : m.id ∉ (run (take key) start pre).seen := by
    rw [run_seen]
    rintro (before | ⟨earlier,inside,same⟩)
    · exact before
    · exact first earlier inside same
  rw [run_append,run_cons]
  obtain ⟨w,final,newer⟩ := run_grows key (take_new key new entry) post
  exact ⟨w,final,(le_newest key _ v).trans newer⟩

section agreement
variable (msg : A → Message I T V)

/-- Everything arrives, in any order and any number of times. -/
def Covers (sent arrived : List A) : Prop := ∀ a, a ∈ arrived ↔ a ∈ sent

/-- All messages with one identifier carry this value, and every message for the
register that is not older carries it too. -/
def Decides (sent : List A) (t : T) (w : A) (v : V) : Prop :=
  (∀ a ∈ sent, (msg a).id = (msg w).id → (msg a).entry = some (t,v)) ∧
  ∀ a ∈ sent, ∀ u, (msg a).entry = some (t,u) → key v ≤ key u → u = v

def Settled (sent : List A) (t : T) : Prop :=
  (∀ a ∈ sent, ∀ v, (msg a).entry ≠ some (t,v)) ∨ ∃ w ∈ sent, ∃ v, Decides key msg sent t w v

theorem decided {sent arrived : List A} {t : T} {w : A} {v : V} (inside : w ∈ sent)
    (decides : Decides key msg sent t w v) (covers : Covers sent arrived) :
    (run (take key) start (arrived.map msg)).held t = some v := by
  have listed : msg w ∈ arrived.map msg := List.mem_map_of_mem ((covers w).mpr inside)
  obtain ⟨pre,first,post,whole,same,fresh⟩ := exists_first listed
  have source {m : Message I T V} (member : m ∈ arrived.map msg) : ∃ a ∈ sent, msg a = m := by
    obtain ⟨a,delivered,rfl⟩ := List.mem_map.mp member
    exact ⟨a,(covers a).mp delivered,rfl⟩
  have arrives : first ∈ arrived.map msg := by simp [whole]
  obtain ⟨a,known,rfl⟩ := source arrives
  have entry := decides.1 a known same
  have unseen : ∀ earlier ∈ pre, earlier.id ≠ (msg a).id := fun m before => same ▸ fresh m before
  have ⟨u,final,newer⟩ : ∃ u, (run (take key) start (pre ++ msg a :: post)).held t = some u ∧ key v ≤ key u :=
    run_first key unseen entry
  rw [← whole] at final
  obtain ⟨m,member,origin⟩ := run_origin key final
  obtain ⟨b,listed,rfl⟩ := source member
  rw [final,decides.2 b listed u origin newer]

theorem unaddressed {sent arrived : List A} {t : T} (silent : ∀ a ∈ sent, ∀ v, (msg a).entry ≠ some (t,v))
    (covers : Covers sent arrived) : (run (take key) start (arrived.map msg)).held t = none := by
  cases final : (run (take key) start (arrived.map msg)).held t with
  | none => rfl
  | some v =>
    obtain ⟨m,member,origin⟩ := run_origin key final
    obtain ⟨a,delivered,rfl⟩ := List.mem_map.mp member
    exact absurd origin (silent a ((covers a).mp delivered) v)

theorem agree_of_settled {sent first second : List A} {t : T} (settled : Settled key msg sent t)
    (one : Covers sent first) (other : Covers sent second) :
    (run (take key) start (first.map msg)).held t = (run (take key) start (second.map msg)).held t := by
  rcases settled with silent | ⟨w,inside,v,decides⟩
  · rw [unaddressed key msg silent one,unaddressed key msg silent other]
  · rw [decided key msg inside decides one,decided key msg inside decides other]

/-- What arrives after everything has arrived once changes nothing. -/
theorem run_repeated {sent once : List A} (known : ∀ a ∈ sent, ∃ b ∈ once, (msg b).id = (msg a).id) :
    run (take key) start ((once ++ sent).map msg) = run (take key) start (once.map msg) := by
  rw [List.map_append,run_append]
  apply run_old
  intro m member
  obtain ⟨a,inside,rfl⟩ := List.mem_map.mp member
  obtain ⟨b,before,same⟩ := known a inside
  rw [run_seen]
  exact .inr ⟨msg b,List.mem_map_of_mem before,same⟩

variable [DecidableEq I]

/-- The arrival that keeps one message for the end. -/
def keptLast (sent : List A) (a : A) : List A := sent.filter (fun b => (msg b).id ≠ (msg a).id) ++ [a] ++ sent

/-- The state in which that arrival delivers the message. -/
noncomputable def beforeLast (sent : List A) (a : A) : Registers I T V :=
  run (take key) start ((sent.filter (fun b => (msg b).id ≠ (msg a).id)).map msg)

omit [DecidableEq T] in
theorem keptLast_covers {sent : List A} {a : A} (inside : a ∈ sent) : Covers sent (keptLast msg sent a) := by
  intro b
  simp only [keptLast,List.mem_append,List.mem_filter,List.mem_singleton]
  constructor
  · rintro ((⟨known,_⟩ | rfl) | known)
    · exact known
    · exact inside
    · exact known
  · intro known
    exact .inr known

theorem beforeLast_seen (sent : List A) (a : A) : (msg a).id ∉ (beforeLast key msg sent a).seen := by
  rw [beforeLast,run_seen]
  rintro (before | ⟨m,member,same⟩)
  · exact before
  · obtain ⟨b,kept,rfl⟩ := List.mem_map.mp member
    simp [same] at kept

theorem run_keptLast (sent : List A) (a : A) :
    run (take key) start ((keptLast msg sent a).map msg) = take key (beforeLast key msg sent a) (msg a) := by
  rw [keptLast,run_repeated]
  · rw [List.map_append,run_append]
    rfl
  · intro b known
    by_cases same : (msg b).id = (msg a).id
    · exact ⟨a,by simp,same.symm⟩
    · exact ⟨b,by simp [known,same],rfl⟩

/-- A message kept for the end is what its register holds unless something newer arrived. -/
theorem held_keptLast {sent : List A} {a : A} {t : T} {u v : V} (entry : (msg a).entry = some (t,u))
    (final : (run (take key) start ((keptLast msg sent a).map msg)).held t = some v) (newer : key v ≤ key u) :
    u = v := by
  rw [run_keptLast,take_new key (beforeLast_seen key msg sent a) entry] at final
  cases earlier : (beforeLast key msg sent a).held t with
  | none => simpa [earlier] using final
  | some last =>
    rw [earlier,newest_some,Option.some.injEq] at final
    split at final
    next older =>
      subst final
      exact absurd older (not_lt.mpr newer)
    next => exact final

theorem settled_of_agree {sent : List A} {t : T}
    (agree : ∀ first second, Covers sent first → Covers sent second →
      (run (take key) start (first.map msg)).held t = (run (take key) start (second.map msg)).held t) :
    Settled key msg sent t := by
  by_cases silent : ∀ a ∈ sent, ∀ v, (msg a).entry ≠ some (t,v)
  · exact .inl silent
  push Not at silent
  obtain ⟨a,inside,u,entry⟩ := silent
  obtain ⟨v,whole⟩ : ∃ v, ∀ arrived, Covers sent arrived →
      (run (take key) start (arrived.map msg)).held t = some v := by
    obtain ⟨v,final⟩ : ∃ v, (run (take key) start ((keptLast msg sent a).map msg)).held t = some v := by
      rw [run_keptLast]
      exact ⟨_,take_new key (beforeLast_seen key msg sent a) entry⟩
    refine ⟨v,?_⟩
    intro arrived covers
    rw [agree arrived _ covers (keptLast_covers msg inside),final]
  have newest : ∀ b ∈ sent, ∀ u, (msg b).entry = some (t,u) → key v ≤ key u → u = v := by
    intro b known u entry newer
    exact held_keptLast key msg entry (whole _ (keptLast_covers msg known)) newer
  by_contra unsettled
  -- Otherwise every message has a rival with its identifier; delivering the rivals first misses the value.
  have rival : ∀ b ∈ sent, ∃ c ∈ sent, (msg c).id = (msg b).id ∧ (msg c).entry ≠ some (t,v) := by
    intro b known
    by_contra sole
    push Not at sole
    exact unsettled (.inr ⟨b,known,v,sole,newest⟩)
  choose! other listed same differs using rival
  have covers : Covers sent (sent.map other ++ sent) := by
    intro b
    simp only [List.mem_append,List.mem_map]
    constructor
    · rintro (⟨c,known,rfl⟩ | known)
      · exact listed c known
      · exact known
    · intro known
      exact .inr known
  have final := whole _ covers
  rw [run_repeated key msg (fun b known => ⟨other b,List.mem_map_of_mem known,same b known⟩)] at final
  obtain ⟨m,member,origin⟩ := run_origin key final
  obtain ⟨c,mapped,rfl⟩ := List.mem_map.mp member
  obtain ⟨b,known,rfl⟩ := List.mem_map.mp mapped
  exact differs b known origin

end agreement
end RevPilot.Library.LatestWins
