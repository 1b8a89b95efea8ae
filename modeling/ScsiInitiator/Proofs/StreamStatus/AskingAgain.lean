import ScsiInitiator.Proofs.Endings
import ScsiInitiator.Proofs.Histories
import ScsiInitiator.Script

/-!
# Asking again with room for all

A device that always answers in the same way *writes* replies and raw bytes to
the start of each data area, one over the other.  What does not fit is lost, so
less room shows the front of what more room shows (`Writing.take_writeAll`).  A
reply is cut between descriptors, which is why this is said of areas with room
for whole descriptors.

A report is then cut in the same way (`Report.Describes.cut`), and its total does
not depend on the room.  The total is never above what can be asked for
(`Report.Describes.total_le`).  So whoever learns the total can ask again and
gets all streams, of which the first answer had the first ones
(`asking_again_reports_all`).
-/

namespace ScsiInitiator

theorem Bytes.take_overwrite_zero (b new : Bytes) (n : Nat) :
    (overwrite b 0 new).take n = overwrite (b.take n) 0 new := by
  apply List.ext_getElem?
  intro p
  simp only [overwrite, List.take_zero, List.nil_append, Nat.sub_zero, Nat.zero_add,
    List.getElem?_take, List.getElem?_append, List.length_take, List.getElem?_drop]
  grind

theorem Bytes.slice_take (b : Bytes) {n start count : Nat} (h : start + count ≤ n) :
    slice (b.take n) start count = slice b start count := by
  have hslice := slice_slice b 0 h
  rwa [Nat.zero_add] at hslice

/-- A fresh builder of a session takes a setting. -/
theorem Session.step_stream_configure {s : Session} {id : String}
    {b : Builder StreamStatus.StreamDraft} (h : s.streams id = some b) (hfresh : b.issued = false)
    (x : StreamStatus.Setting) :
    s.step (.stream (.configure id x)) =
      ({ s with streams := s.streams.insert id { b with draft := Draft.apply x b.draft } },
        .ok .done) := by
  have hset : b.configure x = .ok { b with draft := Draft.apply x b.draft } := by
    rw [Builder.configure, Builder.checkFresh_of_fresh hfresh]
    rfl
  exact step_stream (Call.perform_configure_of_ok h hset)

namespace StreamStatus

/-! ## Writings -/

/-- Something a device writes to the start of a data area. -/
inductive Writing
  /-- A reply about streams, as far as whole descriptors fit. -/
  | reply (r : Reply)
  /-- Raw bytes, as far as they fit. -/
  | raw (b : Bytes)
deriving DecidableEq, Repr

namespace Writing

/-- The data area after a writing. -/
def write : Writing → Bytes → Bytes
  | reply r, area => r.write area area.length
  | raw b, area => area.overwrite 0 b

/-- The data area after some writings, first writing first. -/
def writeAll (ws : List Writing) (area : Bytes) : Bytes :=
  ws.foldl (fun area w => w.write area) area

@[simp] theorem length_write (w : Writing) (area : Bytes) :
    (w.write area).length = area.length := by
  cases w with
  | reply r => exact r.length_write area _
  | raw b => exact Bytes.length_overwrite ..

@[simp] theorem length_writeAll (ws : List Writing) (area : Bytes) :
    (writeAll ws area).length = area.length := by
  induction ws generalizing area with
  | nil => rfl
  | cons w ws ih => exact (ih (w.write area)).trans (w.length_write area)

/-- Descriptors are written one after another, so the front of an area does not
depend on how long the area is. -/
theorem take_writeDescriptors : ∀ (area : Bytes) {room : Nat} (ids : List UInt16) {n : Nat},
    8 * n ≤ room → (Reply.writeDescriptors area room ids).take (8 * n) =
      Reply.writeDescriptors (area.take (8 * n)) (8 * n) ids
  | _, _, [], _, _ => rfl
  | area, room, id :: ids, 0, _ => by
      have hsize : descriptorLayout.size = 8 := rfl
      rw [Nat.mul_zero, List.take_zero, List.take_zero, Reply.writeDescriptors, hsize,
        if_pos (by omega)]
  | area, room, id :: ids, n + 1, h => by
      have hsize : descriptorLayout.size = 8 := rfl
      have hlength := (Descriptor.blank.setIdentifier id).length_bytes
      have ih : (Reply.writeDescriptors (area.drop 8) (room - 8) ids).take (8 * n) =
          Reply.writeDescriptors ((area.drop 8).take (8 * n)) (8 * n) ids :=
        take_writeDescriptors (area.drop 8) ids (by omega)
      rw [Reply.writeDescriptors, Reply.writeDescriptors, hsize, if_neg (by omega),
        if_neg (by omega), List.take_append, hlength, hsize, List.take_of_length_le (by omega),
        show 8 * (n + 1) - 8 = 8 * n by omega, ih, List.drop_take,
        show 8 * (n + 1) - 8 = 8 * n by omega]

theorem take_write_reply (r : Reply) {area : Bytes} {n : Nat} (h : 8 + 8 * n ≤ area.length) :
    (r.write area area.length).take (8 + 8 * n) =
      r.write (area.take (8 + 8 * n)) (area.take (8 + 8 * n)).length := by
  have hsize : headerLayout.size = 8 := rfl
  have hheader := r.header.length_bytes
  have hlength : (area.take (8 + 8 * n)).length = 8 + 8 * n := List.length_take_of_le h
  have hrows : (Reply.writeDescriptors (area.drop 8) (area.length - 8) r.identifiers).take
      (8 * n) = Reply.writeDescriptors ((area.drop 8).take (8 * n)) (8 * n) r.identifiers :=
    take_writeDescriptors (area.drop 8) r.identifiers (by omega)
  rw [Reply.write, Reply.write, hlength, Nat.min_self, Nat.min_self, hsize, if_neg (by omega),
    if_neg (by omega), List.take_append, hheader, hsize, List.take_of_length_le (by omega),
    Nat.add_sub_cancel_left, hrows, List.drop_take, Nat.add_sub_cancel_left]

theorem take_write (w : Writing) {area : Bytes} {n : Nat} (h : 8 + 8 * n ≤ area.length) :
    (w.write area).take (8 + 8 * n) = w.write (area.take (8 + 8 * n)) := by
  cases w with
  | reply r => exact take_write_reply r h
  | raw b => exact area.take_overwrite_zero b _

/-- Less room shows the front of what more room shows. -/
theorem take_writeAll (ws : List Writing) {area : Bytes} {n : Nat} (h : 8 + 8 * n ≤ area.length) :
    (writeAll ws area).take (8 + 8 * n) = writeAll ws (area.take (8 + 8 * n)) := by
  induction ws generalizing area with
  | nil => rfl
  | cons w ws ih =>
      have hrest : (writeAll ws (w.write area)).take (8 + 8 * n) =
          writeAll ws ((w.write area).take (8 + 8 * n)) := ih (by rwa [w.length_write])
      rw [w.take_write h] at hrest
      exact hrest

theorem take_writeAll_zeros (ws : List Writing) {m n : Nat} (h : n ≤ m) :
    (writeAll ws (Bytes.zeros (8 + 8 * m))).take (8 + 8 * n) =
      writeAll ws (Bytes.zeros (8 + 8 * n)) := by
  rw [take_writeAll ws (by rw [Bytes.length_zeros]; omega), Bytes.zeros, List.take_replicate,
    Nat.min_eq_left (by omega), Bytes.zeros]

end Writing

/-- A device that gives one outcome to every command and fills every data area by
the same writings. -/
def Writes (h : Handler) (o : Outcome) (ws : List Writing) : Prop :=
  ∀ block area, h.respond block (some area) = (o, Writing.writeAll ws area)

/-- What a script writes. -/
def writings (s : Script) : List Writing :=
  (s.streams.map .reply).toList ++ (s.bytes.map .raw).toList

/-- Every script is such a device. -/
theorem writes_handler (s : Script) : Writes s.handler s.outcome (writings s) := by
  intro block area
  rcases s with ⟨outcome, streams, bytes⟩
  cases streams <;> cases bytes <;> rfl

/-! ## Reports that are cut -/

theorem announced_le {length : Nat} (h : length < 2 ^ 32) : announced length ≤ 536870910 := by
  rw [announced]
  split <;> omega

namespace Report

/-- The report of the first `n` descriptors. -/
def cut (r : Report) (n : Nat) : Report := { r with identifiers := r.identifiers.take n }

namespace Describes

variable {r : Report} {area : Bytes} {m n : Nat}

/-- The length in the header has 32 bits, so it announces no more descriptors
than can be asked for. -/
theorem total_le (h : r.Describes area m) : r.total.toNat ≤ 536870910 := by
  have hlt := Bytes.toNat_lt (Bytes.slice area 0 4)
  have hfour : (Bytes.slice area 0 4).length ≤ 4 := List.length_take_le ..
  have hpow := Nat.pow_le_pow_right (n := 256) (by decide) hfour
  rw [h.total]
  exact announced_le (by omega)

/-- A report of the front of an area is the report of the area, cut. -/
theorem cut (h : r.Describes area m) (hn : n ≤ m) :
    (r.cut n).Describes (area.take (8 + 8 * n)) n := by
  have hlength : Bytes.slice (area.take (8 + 8 * n)) 0 4 = Bytes.slice area 0 4 :=
    area.slice_take (by omega)
  have hopen : Bytes.slice (area.take (8 + 8 * n)) 6 2 = Bytes.slice area 6 2 :=
    area.slice_take (by omega)
  refine ⟨by rw [hlength]; exact h.total, by rw [hopen]; exact h.openStreams, ?_⟩
  rw [hlength, Report.cut, List.map_take, h.identifiers, ← List.map_take, List.take_range,
    show min n (min (announced (Bytes.toNat (Bytes.slice area 0 4))) m) =
      min (announced (Bytes.toNat (Bytes.slice area 0 4))) n by omega]
  apply List.map_congr_left
  intro i hi
  rw [List.mem_range] at hi
  rw [area.slice_take (by omega)]

end Describes

end Report

/-! ## Asking twice -/

/-- Reports of the same writings differ in nothing but how many streams there was
room for. -/
theorem report_eq_cut {ws : List Writing} {r r' : Report} {m n : Nat} (hn : n ≤ m)
    (h : r.Describes (Writing.writeAll ws (Bytes.zeros (8 + 8 * m))) m)
    (h' : r'.Describes (Writing.writeAll ws (Bytes.zeros (8 + 8 * n))) n) : r' = r.cut n := by
  have hcut := h.cut hn
  rw [Writing.take_writeAll_zeros ws hn] at hcut
  exact h'.eq hcut

/-- Room for as many streams as are announced shows all of them. -/
theorem report_of_total {ws : List Writing} {r all : Report} {m : Nat}
    (h : r.Describes (Writing.writeAll ws (Bytes.zeros (8 + 8 * m))) m)
    (hall : all.Describes (Writing.writeAll ws (Bytes.zeros (8 + 8 * r.total.toNat)))
      r.total.toNat) :
    all.total = r.total ∧ all.openStreams = r.openStreams ∧
      all.identifiers.length = r.total.toNat ∧
      r.identifiers = all.identifiers.take (min m r.total.toNat) := by
  rcases Nat.le_total m r.total.toNat with hle | hge
  · have hcut := report_eq_cut hle hall h
    have htotal : all.total = r.total := by
      rw [hcut]
      rfl
    refine ⟨htotal, by rw [hcut]; rfl, ?_, ?_⟩
    · rw [hall.length_identifiers, htotal, Nat.min_self]
    · rw [Nat.min_eq_left hle, hcut]
      rfl
  · have hcut := report_eq_cut hge h hall
    have hlength := h.length_identifiers
    rw [Nat.min_eq_left hge] at hlength
    have hids : all.identifiers = r.identifiers := by
      rw [hcut]
      exact List.take_of_length_le (Nat.le_of_eq hlength)
    refine ⟨by rw [hcut]; rfl, by rw [hcut]; rfl, by rw [hids, hlength], ?_⟩
    rw [Nat.min_eq_right hge, hids, List.take_of_length_le (Nat.le_of_eq hlength)]

/-- A new builder with room for some descriptors. -/
def withRoom (on : Initiator) (n : UInt32) : Builder StreamDraft :=
  ⟨on, StreamDraft.blank.apply (.descriptorLength n), false⟩

variable {h : Handler} {o : Outcome} {ws : List Writing} {b : Builder StreamDraft}

/-- A report is a matter of the writings and of the room, for a device that
succeeds.  Builder and transport may be any. -/
theorem exists_report_of_writes (hwrites : Writes h o ws) (htransport : ¬o.TransportFailed)
    (hdevice : ¬o.DeviceFailed) {n : Nat} (hn : n ≤ 536870910) :
    ∃ report : Report, report.Describes (Writing.writeAll ws (Bytes.zeros (8 + 8 * n))) n ∧
      ∀ (b : Builder StreamDraft) (t : Transport), b.issued = false →
        b.draft.descriptorLength.toNat = n → t.handler = h →
        ∃ t' : Transport, t'.handler = h ∧
          b.issue t = ({ b with issued := true }, t', .ok report) := by
  have hissue : ∀ (b : Builder StreamDraft) (t : Transport), b.issued = false →
      b.draft.descriptorLength.toNat = n → t.handler = h →
      ∃ (report : Report) (t' : Transport),
        report.Describes (Writing.writeAll ws (Bytes.zeros (8 + 8 * n))) n ∧
        t'.handler = h ∧ b.issue t = ({ b with issued := true }, t', .ok report) := by
    rintro b t hfresh rfl rfl
    obtain ⟨report, hreport, hissue⟩ := exists_report_of_respond hfresh hn (hwrites _ _)
    rw [Bytes.overwrite_zero_of_length_eq (Writing.length_writeAll ws _)] at hreport
    rw [o.settle_of_success htransport hdevice] at hissue
    exact ⟨report, (t.execute (b.draft.request b.initiator) (some b.draft.area)).1, hreport, rfl,
      hissue⟩
  have hroom : (withRoom .default (UInt32.ofNat n)).draft.descriptorLength.toNat = n := by
    show (UInt32.ofNat n).toNat = n
    rw [UInt32.toNat_ofNat', Nat.mod_eq_of_lt (by omega)]
  obtain ⟨report, -, hreport, -⟩ := hissue (withRoom .default (UInt32.ofNat n)) { handler := h }
    rfl hroom rfl
  refine ⟨report, hreport, ?_⟩
  intro b t hfresh hb ht
  obtain ⟨report', t', hreport', ht', hresult⟩ := hissue b t hfresh hb ht
  exact ⟨t', ht', by rw [hresult, hreport'.eq hreport]⟩

/-- The four steps of asking again, in a session: issue a builder, begin another
one, give it the total as room, and issue it. -/
def askingAgain (id again : String) (on : Initiator) (total : UInt64) : List Step :=
  [.stream (.issue id), .stream (.blank on again),
    .stream (.configure again (.descriptorLength total.toUInt32)), .stream (.issue again)]

theorem answers_askingAgain {s : Session} {id again : String} {on : Initiator}
    {b₁ b₂ : Builder StreamDraft} {t₁ t₂ : Transport} {report all : Report}
    (hid : s.streams id = some b) (hissue : b.issue s.transport = (b₁, t₁, .ok report))
    (hagain : (withRoom on report.total.toUInt32).issue t₁ = (b₂, t₂, .ok all)) :
    (s.run (askingAgain id again on report.total)).2.map Session.Entry.answer =
      [.ok (.report report), .ok .done, .ok .done, .ok (.report all)] := by
  let streams₁ := s.streams.insert id b₁
  let streams₂ := streams₁.insert again (Builder.blank on)
  let streams₃ := streams₂.insert again (withRoom on report.total.toUInt32)
  have hfirst : s.step (.stream (.issue id)) =
      ({ s with streams := streams₁, transport := t₁ }, .ok (.report report)) :=
    Session.step_stream_issue_of_ok hid hissue
  have hblank : Session.step { s with streams := streams₁, transport := t₁ }
      (.stream (.blank on again)) =
        ({ s with streams := streams₂, transport := t₁ }, .ok .done) := rfl
  have hroom : Session.step { s with streams := streams₂, transport := t₁ }
      (.stream (.configure again (.descriptorLength report.total.toUInt32))) =
        ({ s with streams := streams₃, transport := t₁ }, .ok .done) :=
    Session.step_stream_configure (s := { s with streams := streams₂, transport := t₁ })
      (b := Builder.blank on) (streams₁.insert_self again _) rfl _
  have hsecond : Session.step { s with streams := streams₃, transport := t₁ }
      (.stream (.issue again)) =
        ({ s with streams := streams₃.insert again b₂, transport := t₂ }, .ok (.report all)) :=
    Session.step_stream_issue_of_ok (s := { s with streams := streams₃, transport := t₁ })
      (streams₂.insert_self again _) hagain
  simp only [askingAgain, Session.run, hfirst, hblank, hroom, hsecond, List.map_cons,
    List.map_nil]

/-- Learning the total and asking again gives all streams.  For a device that
always writes the same, and succeeds, the first report tells a total that can be
asked for.  Whoever asks for that many gets the same total, the same number of
open streams, and as many identifiers; the first report had the first of them. -/
theorem asking_again_reports_all (hwrites : Writes h o ws) (htransport : ¬o.TransportFailed)
    (hdevice : ¬o.DeviceFailed) (hfresh : b.issued = false)
    (hcount : b.draft.descriptorLength.toNat ≤ 536870910) :
    ∃ report all : Report,
      report.total.toNat ≤ 536870910 ∧
      all.total = report.total ∧ all.openStreams = report.openStreams ∧
      all.identifiers.length = report.total.toNat ∧
      report.identifiers =
        all.identifiers.take (min b.draft.descriptorLength.toNat report.total.toNat) ∧
      (∀ t : Transport, t.handler = h →
        (b.issue t).2.2 = .ok report ∧
        ∀ again : Builder StreamDraft, again.issued = false →
          again.draft.descriptorLength = report.total.toUInt32 →
          (again.issue t).2.2 = .ok all) ∧
      ∀ (s : Session) (id again : String) (on : Initiator),
        s.transport.handler = h → s.streams id = some b →
        (s.run (askingAgain id again on report.total)).2.map Session.Entry.answer =
          [.ok (.report report), .ok .done, .ok .done, .ok (.report all)] := by
  obtain ⟨report, hreport, hfirst⟩ := exists_report_of_writes hwrites htransport hdevice hcount
  have htotal := hreport.total_le
  obtain ⟨all, hall, hsecond⟩ := exists_report_of_writes hwrites htransport hdevice htotal
  obtain ⟨hsame, hopen, hlength, hids⟩ := report_of_total hreport hall
  have hroom : report.total.toUInt32.toNat = report.total.toNat := by
    rw [UInt64.toNat_toUInt32]
    omega
  refine ⟨report, all, htotal, hsame, hopen, hlength, hids, ?_, ?_⟩
  · intro t ht
    obtain ⟨t₁, -, hissue⟩ := hfirst b t hfresh rfl ht
    refine ⟨by rw [hissue], ?_⟩
    intro again hagain hdescriptors
    obtain ⟨t₂, -, hissue₂⟩ := hsecond again t hagain (by rw [hdescriptors, hroom]) ht
    rw [hissue₂]
  · intro s id again on hs hid
    obtain ⟨t₁, ht₁, hissue⟩ := hfirst b s.transport hfresh rfl hs
    obtain ⟨t₂, -, hissue₂⟩ := hsecond (withRoom on report.total.toUInt32) t₁ rfl hroom ht₁
    exact answers_askingAgain hid hissue hissue₂

/-- Three streams, of which the first builder has room for one. -/
theorem asking_again_reports_all_three :
    let h := Script.handler { streams := some ⟨32, 9, [10, 20, 30]⟩, bytes := some [0, 0] }
    let s : Session :=
      { transport := { handler := h }, streams := Slots.empty.insert "first" (withRoom .default 1) }
    (s.run (askingAgain "first" "again" .default 3)).2.map Session.Entry.answer =
      [.ok (.report ⟨3, 9, [10]⟩), .ok .done, .ok .done, .ok (.report ⟨3, 9, [10, 20, 30]⟩)] := by
  intro h s
  obtain ⟨report, all, -, -, -, -, -, hresults, hrun⟩ :=
    asking_again_reports_all (b := withRoom .default 1) (writes_handler _) (h := h) (by decide)
      (by decide) rfl (by decide)
  obtain ⟨hfirst, hsecond⟩ := hresults s.transport rfl
  have hreport : report = ⟨3, 9, [10]⟩ := by
    have hissue : ((withRoom .default 1).issue s.transport).2.2 = .ok ⟨3, 9, [10]⟩ := by
      decide +kernel
    exact Except.ok.inj (hfirst.symm.trans hissue)
  subst hreport
  have hall : all = ⟨3, 9, [10, 20, 30]⟩ := by
    have hissue : ((withRoom .default 3).issue s.transport).2.2 = .ok ⟨3, 9, [10, 20, 30]⟩ := by
      decide +kernel
    exact Except.ok.inj ((hsecond (withRoom .default 3) rfl rfl).symm.trans hissue)
  subst hall
  exact hrun s "first" "again" .default rfl rfl

end StreamStatus

end ScsiInitiator
