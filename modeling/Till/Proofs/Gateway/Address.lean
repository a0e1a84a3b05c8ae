import Mathlib.Data.List.Basic
import Till.Operation.Factory
import Till.Proofs.Path

/-!
# Addresses

`Device.address` and `Server.address` are the urls of the methods of a device and of the server,
written out. The path of a kind comes to them (`Device.url_path`, `Server.url_path`), since the
methods are segments (`Path.IsSegment`): a join leaves those as they are, and what stands in front
of the last one can be read off a path again (`Path.append_segment_inj`). So addresses over one host
tell devices and methods apart (`Device.address_inj`), whatever characters a serial number has, and
no device has an address of a server (`Device.address_ne_server`). There is a device for every
serial number that is not blank (`Device.exists_make`), and for no other
(`Device.make_eq_error_iff`).
-/

namespace Till

/-! ### Paths -/

namespace Path

/-- Not empty, without blanks and without separators. -/
def IsSegment (s : String) : Prop :=
  s.toList ≠ [] ∧ ∀ c ∈ s.toList, Text.isBlank c = false ∧ isSeparator c = false

instance (s : String) : Decidable (IsSegment s) :=
  -- over the characters of the text, not over all characters
  decidable_of_iff (s.toList ≠ [] ∧
    (s.toList.all fun c => !Text.isBlank c && !isSeparator c) = true) (by simp [IsSegment])

namespace IsSegment
variable {s : String}

theorem trim (h : IsSegment s) : Text.trim s = s :=
  Text.stripped_of_ends (fun c hc => (h.2 c (List.mem_of_head? hc)).1)
    fun c hc => (h.2 c (List.mem_of_getLast? hc)).1

theorem slash_notMem (h : IsSegment s) : '/' ∉ s.toList := by
  intro hc
  have hseparator := (h.2 '/' hc).2
  cases hseparator

end IsSegment

/-- Only the blanks around the inner segment are lost. -/
theorem join_segments {first last : String} (hfirst : IsSegment first) (hlast : IsSegment last)
    (inner : String) :
    join [first, inner, last] = first ++ "/" ++ Text.trim inner ++ "/" ++ last := by
  have hjoined : "/".intercalate ([first, inner, last].map Text.trim) =
      first ++ "/" ++ Text.trim inner ++ "/" ++ last := by
    rw [List.map_cons, List.map_cons, List.map_cons, hfirst.trim, hlast.trim]
    rfl
  rw [join, hjoined]
  refine Text.stripped_of_ends (fun c hc => ?_) fun c hc => ?_
  · simp only [String.toList_append, List.append_assoc] at hc
    rw [List.head?_append_of_ne_nil _ hfirst.1] at hc
    exact (hfirst.2 c (List.mem_of_head? hc)).2
  · rw [String.toList_append, List.getLast?_append_of_ne_nil _ hlast.1] at hc
    exact (hlast.2 c (List.mem_of_getLast? hc)).2

/-- A list that begins with its only slash has nothing in front of it. -/
theorem eq_nil_of_slash_append {b m m' : List Char} (hm : '/' ∉ m)
    (h : '/' :: m = b ++ '/' :: m') : b = [] := by
  cases b with
  | nil => rfl
  | cons c b =>
    have hslash : '/' ∈ m := by
      rw [(List.cons.inj h).2]
      simp
    exact absurd hslash hm

/-- Where its last slash stands, a list falls apart in one way only. -/
theorem append_slash_inj {a a' m m' : List Char} (hm : '/' ∉ m) (hm' : '/' ∉ m')
    (h : a ++ '/' :: m = a' ++ '/' :: m') : a = a' ∧ m = m' := by
  -- one front is the start of the other, and what the other has more is nothing
  rcases List.append_eq_append_iff.1 h with ⟨b, rfl, hb⟩ | ⟨b, rfl, hb⟩
  · obtain rfl := eq_nil_of_slash_append hm hb
    exact ⟨(List.append_nil a).symm, (List.cons.inj hb).2⟩
  · obtain rfl := eq_nil_of_slash_append hm' hb
    exact ⟨List.append_nil a', (List.cons.inj hb).2.symm⟩

theorem append_segment_inj {base base' m m' : String} (hm : IsSegment m) (hm' : IsSegment m') :
    base ++ "/" ++ m = base' ++ "/" ++ m' ↔ base = base' ∧ m = m' := by
  constructor
  · intro h
    have hlists := congrArg String.toList h
    simp only [String.toList_append, List.append_assoc] at hlists
    obtain ⟨hbase, hsegment⟩ := append_slash_inj hm.slash_notMem hm'.slash_notMem hlists
    exact ⟨String.toList_inj.1 hbase, String.toList_inj.1 hsegment⟩
  · rintro ⟨rfl, rfl⟩
    rfl

end Path

/-! ### Methods -/

theorem DeviceKind.isSegment_method (k : DeviceKind) : Path.IsSegment k.method := by
  cases k <;> decide +kernel

namespace ServerKind

theorem isSegment_name (k : ServerKind) : Path.IsSegment k.name := by
  cases k <;> decide

theorem normalize_method (k : ServerKind) : Path.normalize k.method = k.method := by
  cases k <;> decide

/-- The method is the name of the kind, under the devices or at the top. -/
theorem method_eq (k : ServerKind) : ∃ base, "/" ++ k.method = base ++ "/" ++ k.name := by
  cases k with
  | ping => exact ⟨"", rfl⟩
  | learn | resetRegistry => exact ⟨"/kkm", rfl⟩

end ServerKind

theorem DeviceKind.method_ne_name (k : DeviceKind) (k' : ServerKind) : k.method ≠ k'.name := by
  cases k' <;> cases k <;> decide

/-! ### Addresses -/

theorem Kind.normalize_path (k : Kind) (serial : String) :
    Path.normalize (k.path serial) = k.path serial := by
  cases k <;> exact Path.normalize_normalize _

/-- The url of a method of the device. -/
def Device.address (d : Device) (k : DeviceKind) : String :=
  "https://" ++ d.connection.host ++ "/kkm/" ++ Text.trim d.connection.serial ++ "/" ++ k.method

/-- The url of a method of the server. -/
def Server.address (s : Server) (k : ServerKind) : String :=
  "https://" ++ s.connection.host ++ "/" ++ k.method

theorem Server.url_path (s : Server) (k : ServerKind) :
    s.connection.url ((Kind.server k).path s.connection.serial) = s.address k := by
  rw [Connection.url, Kind.normalize_path, Kind.path_server, k.normalize_method]
  rfl

namespace Device

theorem url_path (d : Device) (k : DeviceKind) :
    d.connection.url ((Kind.device k).path d.connection.serial) = d.address k := by
  have hkkm (rest : String) : "/" ++ ("kkm" ++ ("/" ++ rest)) = "/kkm/" ++ rest := by
    rw [← String.append_assoc, ← String.append_assoc]
    rfl
  rw [Connection.url, Kind.normalize_path, Kind.path_device,
    Path.join_segments (by decide) k.isSegment_method]
  simp only [address, String.append_assoc, hkkm]

theorem address_inj {d d' : Device} (h : d'.connection.host = d.connection.host)
    (k k' : DeviceKind) :
    d'.address k' = d.address k ↔
      Text.trim d'.connection.serial = Text.trim d.connection.serial ∧ k'.method = k.method := by
  rw [address, address, h, Path.append_segment_inj k'.isSegment_method k.isSegment_method,
    String.append_right_inj]

theorem address_ne_server (d : Device) (k : DeviceKind) (s : Server) (k' : ServerKind) :
    d.address k ≠ s.address k' := by
  intro h
  obtain ⟨base, hbase⟩ := k'.method_eq
  rw [Server.address, String.append_assoc, hbase, ← String.append_assoc, ← String.append_assoc] at h
  have hmethods := ((Path.append_segment_inj k.isSegment_method k'.isSegment_name).1 h).2
  exact k.method_ne_name k' hmethods

end Device

/-! ### Serial numbers -/

namespace Device
variable {c : Connection} {d : Device} {e : ClientError}

theorem make_eq_error_iff :
    make c = .error e ↔ Text.trim c.serial = "" ∧ e = .invalidConfiguration .noSerial := by
  rw [← String.isEmpty_iff, ← Text.isBlankText]
  unfold make
  split
  · rename_i hblank
    simp [hblank, eq_comm]
  · rename_i hblank
    simp [hblank]

theorem connection_of_make (h : make c = .ok d) : d.connection = c := by
  unfold make at h
  split at h
  · cases h
  · cases h
    rfl

theorem exists_make (h : Text.trim c.serial ≠ "") : ∃ d, make c = .ok d ∧ d.connection = c := by
  cases hmake : make c with
  | error e => exact absurd (make_eq_error_iff.1 hmake).1 h
  | ok d => exact ⟨d, rfl, connection_of_make hmake⟩

theorem serial_ne (d : Device) : Text.trim d.connection.serial ≠ "" := by
  intro h
  have hblank : Text.isBlankText d.connection.serial = true := String.isEmpty_iff.2 h
  rw [d.serial_ok] at hblank
  cases hblank

end Device
end Till
