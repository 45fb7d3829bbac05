import PageTemplates.Proofs.Outcome

/-!
# Operations that return

An operation on a host is described by what it returned and the host it left
behind, one fact for each way to make an operation, so that a whole operation that
returned is taken apart from the front.
-/

namespace PageTemplates

/-- An operation that starts on one host returns a value and leaves another host. -/
def Act.Returns {ε α : Type} (x : Act ε α) (h : Host) (a : α) (h' : Host) : Prop :=
  outcome x h = (.ok a, h')

namespace Host

@[simp] theorem disk_tell (h : Host) (level : Level) (message : String) :
    (h.tell level message).disk = h.disk := by
  unfold tell
  split <;> rfl

@[simp] theorem disk_tellAll (h : Host) (records : List Record) :
    (h.tellAll records).disk = h.disk := by
  unfold tellAll
  induction records generalizing h with
  | nil => rfl
  | cons r rs ih => rw [List.foldl_cons, ih, disk_tell]

end Host

namespace Act

section

variable {ε α β : Type} {h h' : Host}

/-- An operation returns when both of its halves do. -/
theorem returns_bind {x : Act ε α} {f : α → Act ε β} {b : β} :
    (x >>= f).Returns h b h' ↔ ∃ a h₁, x.Returns h a h₁ ∧ (f a).Returns h₁ b h' :=
  outcome_bind_eq_ok

theorem returns_pure {a b : α} : (pure a : Act ε α).Returns h b h' ↔ b = a ∧ h' = h := by
  change (Except.ok a, h) = (.ok b, h') ↔ _
  simp [eq_comm]

theorem returns_get {a : Host} : (get : Act ε Host).Returns h a h' ↔ a = h ∧ h' = h := by
  change (Except.ok h, h) = (.ok a, h') ↔ _
  simp [eq_comm]

theorem returns_tell {level : Level} {message : String} {u : Unit} :
    (tell level message : Act ε Unit).Returns h u h' ↔ h' = h.tell level message := by
  change (Except.ok (), h.tell level message) = (.ok u, h') ↔ _
  simp [eq_comm]

theorem returns_logged {x : Logged α} {a : α} :
    (logged x : Act ε α).Returns h a h' ↔ a = x.value ∧ h' = h.tellAll x.log := by
  change (Except.ok x.value, h.tellAll x.log) = (.ok a, h') ↔ _
  simp [eq_comm]

variable {lift : DiskError → ε}

theorem returns_ask {f : Disk → Except DiskError α} {a : α} :
    (ask lift f).Returns h a h' ↔ f h.disk = .ok a ∧ h' = h := by
  unfold ask
  rw [returns_bind]
  constructor
  · rintro ⟨_, _, got, r⟩
    obtain ⟨rfl, rfl⟩ := returns_get.mp got
    split at r
    · rename_i answer
      obtain ⟨rfl, rfl⟩ := returns_pure.mp r
      exact ⟨answer, rfl⟩
    · cases r
  · rintro ⟨answer, rfl⟩
    refine ⟨_, _, returns_get.mpr ⟨rfl, rfl⟩, ?_⟩
    rw [answer]
    exact returns_pure.mpr ⟨rfl, rfl⟩

theorem returns_onDisk {f : Disk → Except DiskError Disk} {u : Unit} :
    (onDisk lift f).Returns h u h' ↔ ∃ disk, f h.disk = .ok disk ∧ h' = { h with disk } := by
  unfold onDisk
  rw [returns_bind]
  constructor
  · rintro ⟨_, _, got, r⟩
    obtain ⟨rfl, rfl⟩ := returns_get.mp got
    split at r
    · rename_i disk made
      cases r
      exact ⟨disk, made, rfl⟩
    · cases r
  · rintro ⟨disk, made, rfl⟩
    refine ⟨_, _, returns_get.mpr ⟨rfl, rfl⟩, ?_⟩
    rw [made]
    rfl

/-! ## Operations in front of others -/

variable {b : β}

theorem returns_get_bind {f : Host → Act ε β} :
    (get >>= f).Returns h b h' ↔ (f h).Returns h b h' := by
  simp only [returns_bind, returns_get, and_assoc, exists_and_left, exists_eq_left]

theorem returns_tell_bind {level : Level} {message : String} {f : Unit → Act ε β} :
    (tell level message >>= f).Returns h b h' ↔ (f ()).Returns (h.tell level message) b h' := by
  simp only [returns_bind, returns_tell, exists_eq_left]
  exact ⟨fun ⟨_, r⟩ => r, fun r => ⟨(), r⟩⟩

theorem returns_logged_bind {x : Logged α} {f : α → Act ε β} :
    (logged x >>= f).Returns h b h' ↔ (f x.value).Returns (h.tellAll x.log) b h' := by
  simp only [returns_bind, returns_logged, and_assoc, exists_and_left, exists_eq_left]

theorem returns_ask_bind {question : Disk → Except DiskError α} {f : α → Act ε β} :
    (ask lift question >>= f).Returns h b h' ↔
      ∃ a, question h.disk = .ok a ∧ (f a).Returns h b h' := by
  simp only [returns_bind, returns_ask, and_assoc, exists_and_left, exists_eq_left]

theorem returns_onDisk_bind {change : Disk → Except DiskError Disk} {f : Unit → Act ε β} :
    (onDisk lift change >>= f).Returns h b h' ↔
      ∃ disk, change h.disk = .ok disk ∧ (f ()).Returns { h with disk } b h' := by
  simp only [returns_bind, returns_onDisk]
  constructor
  · rintro ⟨_, _, ⟨disk, made, rfl⟩, r⟩
    exact ⟨disk, made, r⟩
  · rintro ⟨disk, made, r⟩
    exact ⟨(), _, ⟨disk, made, rfl⟩, r⟩

end

end Act

end PageTemplates
