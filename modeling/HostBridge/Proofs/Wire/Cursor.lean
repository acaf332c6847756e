import HostBridge.Proofs.Wire.Requests
import HostBridge.Wire.Cursor

/-!
# Failed reads consume nothing

A cursor that is moved in place serves requests just as a reader does that hands back what is behind
it (`serveAll_reader`): where a read of several steps fails, the moves that were already made are
taken back. From what requests take and why they fail it follows what every request of every run
comes to, whatever has failed before it (`serveAll_steadily`).
-/

namespace HostBridge

namespace Cursor

open Reader (Found)

/-- A cursor that has not read more than there is. -/
def Sound (cursor : Cursor) : Prop := cursor.position ≤ cursor.buffer.length

/-- What is left to be read. -/
def reader (cursor : Cursor) : Reader := ⟨cursor.position, cursor.buffer.drop cursor.position⟩

variable {cursor behind other : Cursor} {after : Reader} {request : Reader.Request} {found : Found}
  {error : DecodeError} {requests : List Reader.Request}

/-- As much is left of the cursor as of the list behind it. -/
theorem remaining_reader (cursor : Cursor) : cursor.reader.remaining = cursor.remaining :=
  List.length_drop ..

/-- There is more just if something is left. -/
theorem hasMore_iff : cursor.hasMore = true ↔ 0 < cursor.remaining := by
  rw [hasMore, decide_eq_true_iff, remaining, Nat.sub_pos_iff_lt]

/-- There is more of the cursor just if there is more of the list behind it. -/
theorem hasMore_reader (cursor : Cursor) : cursor.reader.hasMore = cursor.hasMore := by
  rw [Bool.eq_iff_iff, hasMore_iff, ← remaining_reader, Reader.hasMore, Reader.remaining,
    List.length_pos_iff, Bool.not_eq_true', List.isEmpty_eq_false_iff]

/-- What was read and what is left are all there is. -/
theorem Sound.position_add_remaining (h : cursor.Sound) :
    cursor.position + cursor.remaining = cursor.buffer.length := Nat.add_sub_of_le h

/-- A new cursor has read nothing yet. -/
theorem sound_ofBytes (bytes : List UInt8) : (ofBytes bytes).Sound := Nat.zero_le _

/-- The cursor was moved to where nothing but `after` is left. -/
structure Moved (cursor behind : Cursor) (after : Reader) : Prop where
  buffer_eq : behind.buffer = cursor.buffer
  sound : behind.Sound
  reader_eq : behind.reader = after

/-! ## Moves that do what reads do -/

namespace Move

variable {α β : Type} {move : Move α} {next : α → Move β} {read : Read α} {reads : α → Read β}
  {value : α}

/-- Behind a move the next one goes on, if anything was found. -/
theorem bind_apply (move : Move α) (next : α → Move β) (cursor : Cursor) :
    (move >>= next) cursor = ExceptT.bindCont next (move cursor).1 (move cursor).2 := rfl

/-- Behind a move that succeeded, the next one starts where it stopped. -/
theorem bind_of_ok (h : move cursor = (.ok value, behind)) :
    (move >>= next) cursor = next value behind := by
  rw [bind_apply, h]
  rfl

/-- A move that fails ends everything, and the cursor is left where it is. -/
theorem bind_of_error (h : move cursor = (.error error, behind)) :
    (move >>= next) cursor = (.error error, behind) := by
  rw [bind_apply, h]
  rfl

/-- A move that succeeded is not taken back. -/
theorem orBack_of_ok (h : move cursor = (.ok value, behind)) :
    move.orBack cursor = (.ok value, behind) := by
  rw [orBack, h]

/-- What a move that fails has moved is taken back. -/
theorem orBack_of_error (h : move cursor = (.error error, behind))
    (hbuffer : behind.buffer = cursor.buffer) : move.orBack cursor = (.error error, cursor) := by
  simp only [orBack, h, hbuffer]

/-- Bytes that are there are taken, and the cursor stands behind them. -/
theorem bytes_of_le {count : Nat} (h : count ≤ cursor.remaining) : Move.bytes count cursor =
    (.ok ((cursor.buffer.drop cursor.position).take count),
      { cursor with position := cursor.position + count }) := by
  change (if cursor.remaining < count then _ else _ : Move (List UInt8)) cursor = _
  rw [if_neg (Nat.not_lt.2 h)]
  rfl

/-- Bytes that are not there in full are asked for in vain, and the cursor stays. -/
theorem bytes_of_lt {count : Nat} (h : cursor.remaining < count) :
    Move.bytes count cursor = (.error (.unexpectedEof count cursor.remaining), cursor) := by
  change (if cursor.remaining < count then _ else _ : Move (List UInt8)) cursor = _
  rw [if_pos h]
  rfl

/-- `finish` complains about what is left over. -/
theorem finish_of_hasMore (h : cursor.hasMore = true) :
    Move.finish cursor = (.error (.trailingBytes cursor.position cursor.buffer.length), cursor) := by
  change (if cursor.hasMore then _ else _ : Move Unit) cursor = _
  rw [if_pos h]
  rfl

/-- `finish` agrees if nothing is left over. -/
theorem finish_of_not_hasMore (h : ¬ cursor.hasMore = true) :
    Move.finish cursor = (.ok (), cursor) := by
  change (if cursor.hasMore then _ else _ : Move Unit) cursor = _
  rw [if_neg h]
  rfl

/-! ### One read and one move -/

/-- The move finds what the read finds and goes behind it. Where the read fails, the move fails for
the same reason, but may already have gone on. -/
structure Tracks (move : Move α) (read : Read α) : Prop where
  found : ∀ {cursor : Cursor} {value : α} {after : Reader}, cursor.Sound →
    read cursor.reader = .ok (value, after) →
    ∃ behind, move cursor = (.ok value, behind) ∧ Moved cursor behind after
  failed : ∀ {cursor : Cursor} {error : DecodeError}, cursor.Sound →
    read cursor.reader = .error error →
    ∃ behind, move cursor = (.error error, behind) ∧ behind.buffer = cursor.buffer

/-- The move does what the read does, and goes nowhere where the read fails. -/
structure Follows (move : Move α) (read : Read α) : Prop where
  found : ∀ {cursor : Cursor} {value : α} {after : Reader}, cursor.Sound →
    read cursor.reader = .ok (value, after) →
    ∃ behind, move cursor = (.ok value, behind) ∧ Moved cursor behind after
  stays : ∀ {cursor : Cursor} {error : DecodeError}, cursor.Sound →
    read cursor.reader = .error error → move cursor = (.error error, cursor)

/-- A move that goes nowhere when it fails has not gone on. -/
theorem Follows.tracks (h : move.Follows read) : move.Tracks read where
  found := h.found
  failed hsound hread := ⟨_, h.stays hsound hread, rfl⟩

namespace Tracks

/-- A move that only hands back a value tracks the read that does. -/
theorem pure (value : α) : (Pure.pure value : Move α).Tracks (Pure.pure value) where
  found := by
    rintro cursor _ _ hsound ⟨⟩
    exact ⟨cursor, rfl, rfl, hsound, rfl⟩
  failed := by
    rintro cursor error - ⟨⟩

/-- A move that only fails tracks the read that does. -/
theorem throw (error : DecodeError) :
    (throwThe DecodeError error : Move α).Tracks (throwThe DecodeError error) where
  found := by
    rintro cursor value after - ⟨⟩
  failed := by
    rintro cursor _ - ⟨⟩
    exact ⟨cursor, rfl, rfl⟩

/-- Moves one after the other track the reads one after the other. -/
theorem bind (h : move.Tracks read) (hnext : ∀ value, (next value).Tracks (reads value)) :
    (move >>= next).Tracks (read >>= reads) where
  found := by
    intro cursor result after hsound hbind
    obtain ⟨value, between, hread, hlast⟩ := Read.exists_of_bind_eq_ok hbind
    obtain ⟨middle, hmove, hmoved⟩ := h.found hsound hread
    rw [← hmoved.reader_eq] at hlast
    obtain ⟨behind, hmove', hmoved'⟩ := (hnext value).found hmoved.sound hlast
    refine ⟨behind, (bind_of_ok hmove).trans hmove', ?_, hmoved'.sound, hmoved'.reader_eq⟩
    rw [hmoved'.buffer_eq, hmoved.buffer_eq]
  failed := by
    intro cursor error hsound hbind
    obtain hread | ⟨value, between, hread, hlast⟩ := Read.bind_eq_error_iff.1 hbind
    · obtain ⟨behind, hmove, hbuffer⟩ := h.failed hsound hread
      exact ⟨behind, bind_of_error hmove, hbuffer⟩
    · obtain ⟨middle, hmove, hmoved⟩ := h.found hsound hread
      rw [← hmoved.reader_eq] at hlast
      obtain ⟨behind, hmove', hbuffer⟩ := (hnext value).failed hmoved.sound hlast
      exact ⟨behind, (bind_of_ok hmove).trans hmove', hbuffer.trans hmoved.buffer_eq⟩

/-- Taken back where it fails, the move goes nowhere then. Either side may know where it started. -/
theorem orBack {move : Nat → Move α} {read : Nat → Read α}
    (h : ∀ start, (move start).Tracks (read start)) :
    (Move.orBack do move (← get).position).Follows (do read (← get).position) where
  found := by
    intro cursor value after hsound hread
    obtain ⟨behind, hmove, hmoved⟩ := (h cursor.position).found hsound hread
    exact ⟨behind, orBack_of_ok hmove, hmoved⟩
  stays := by
    intro cursor error hsound hread
    obtain ⟨behind, hmove, hbuffer⟩ := (h cursor.position).failed hsound hread
    exact orBack_of_error hmove hbuffer

end Tracks

namespace Follows

/-- What is made of a move goes nowhere else. -/
theorem bind_pure (h : move.Follows read) (f : α → β) :
    (move >>= fun value => Pure.pure (f value)).Follows
      (read >>= fun value => Pure.pure (f value)) where
  found := (h.tracks.bind fun value => .pure (f value)).found
  stays hsound hbind := bind_of_error (h.stays hsound (Read.bind_pure_eq_error_iff.1 hbind))

/-- `read_bytes` follows the read of as many bytes. -/
theorem bytes (count : Nat) : (Move.bytes count).Follows (Read.bytes count) where
  found := by
    intro cursor _ after hsound hread
    obtain ⟨word, ⟨rfl, hlength⟩, hrest, hposition⟩ := (Read.Obeys.bytes count).spelled hread
    have hrest : cursor.buffer.drop cursor.position = word ++ after.rest := hrest
    have hle : count ≤ cursor.remaining := by
      rw [← remaining_reader, Reader.remaining, reader, hrest, List.length_append, hlength]
      exact Nat.le_add_right ..
    refine ⟨{ cursor with position := cursor.position + count }, ?_, rfl, ?_, ?_⟩
    · rw [bytes_of_le hle, hrest, List.take_left' hlength]
    · rw [Sound, ← hsound.position_add_remaining]
      exact Nat.add_le_add_left hle _
    · have hbehind : cursor.buffer.drop (cursor.position + count) = after.rest := by
        rw [← List.drop_drop, hrest, List.drop_left' hlength]
      rw [reader, hbehind, ← hlength]
      exact congrArg (Reader.mk · after.rest) hposition.symm
  stays := by
    intro cursor error hsound hread
    obtain ⟨hlt, rfl⟩ := Read.bytes_eq_error_iff.1 hread
    rw [remaining_reader] at hlt ⊢
    exact bytes_of_lt hlt

/-- So do the numbers that are read of them. -/
theorem nat (width : Nat) : (Move.nat width).Follows (Read.nat width) := (bytes width).bind_pure _

/-- So do the byte strings of a fixed size. -/
theorem octets (size : Nat) : (Move.octets size).Follows (Read.octets size) :=
  (bytes size).bind_pure _

/-- The length is read first, and taken back with the rest. -/
theorem string : Move.string.Follows Read.string := by
  have hspelled : ∀ (start : Nat) (found : List UInt8),
      (Move.spelled start found).Tracks (Read.spelledFrom start found) := by
    intro start found
    unfold Move.spelled Read.spelledFrom
    cases Utf8.decode? found with
    | none => exact .throw (.invalidUtf8 start)
    | some text => exact .pure text
  have htracks : ∀ start : Nat,
      (Move.u16 >>= fun length => Move.bytes length.toNat >>= Move.spelled start).Tracks
        (Read.u16 >>= fun length => Read.bytes length.toNat >>= Read.spelledFrom start) :=
    fun start => ((nat 2).bind_pure UInt16.ofNat).tracks.bind fun length =>
      (bytes length.toNat).tracks.bind (hspelled start)
  exact Tracks.orBack htracks

/-- `finish` follows the read that asks whether anything is left. -/
theorem finish : Move.finish.Follows Read.finish where
  found := by
    intro cursor value after hsound hread
    unfold Read.finish at hread
    rw [hasMore_reader] at hread
    split at hread
    · cases hread
    · next hmore =>
      cases hread
      exact ⟨cursor, finish_of_not_hasMore hmore, rfl, hsound, rfl⟩
  stays := by
    intro cursor error hsound hread
    unfold Read.finish at hread
    rw [hasMore_reader, remaining_reader] at hread
    split at hread
    · next hmore =>
      cases hread
      rw [finish_of_hasMore hmore, ← hsound.position_add_remaining]
      rfl
    · cases hread

/-- Every request is served alike. -/
theorem answer (request : Reader.Request) : (Move.answer request).Follows request.read := by
  cases request with
  | u8 | u16 | u32 | u64 => exact ((nat _).bind_pure _).bind_pure _
  | number width => exact (nat width).bind_pure _
  | bytes count => exact (bytes count).bind_pure _
  | octets size => exact (octets size).bind_pure _
  | string => exact string.bind_pure _
  | finish => exact finish.bind_pure _

end Follows

end Move

/-! ## Requests one after the other -/

/-- Where the request finds something, the cursor goes behind it. -/
theorem serve_of_ok (hsound : cursor.Sound)
    (hread : request.read cursor.reader = .ok (found, after)) :
    ∃ behind, cursor.serve request = (.ok found, behind) ∧ Moved cursor behind after :=
  (Move.Follows.answer request).found hsound hread

/-- Where the request fails, the cursor stays. -/
theorem serve_of_error (hsound : cursor.Sound)
    (hread : request.read cursor.reader = .error error) :
    cursor.serve request = (.error error, cursor) :=
  (Move.Follows.answer request).stays hsound hread

/-- Of a cursor that was moved, only the position is another. -/
theorem Moved.eq (h : Moved cursor behind after) :
    behind = { cursor with position := after.position } := by
  obtain ⟨buffer, position⟩ := behind
  rw [← h.reader_eq, ← h.buffer_eq]
  rfl

/-- A request is served with the same bytes in the same way, whatever stands around them. -/
theorem serve_of_finds {word : List UInt8} (hfinds : request.read.Finds found word)
    (hsound : cursor.Sound) (hword : word <+: cursor.buffer.drop cursor.position) :
    cursor.serve request =
      (.ok found, { cursor with position := cursor.position + word.length }) := by
  obtain ⟨rest, hrest⟩ := hword
  have hread : request.read cursor.reader =
      .ok (found, ⟨cursor.position + word.length, rest⟩) := by
    rw [reader, ← hrest]
    exact hfinds cursor.position rest
  obtain ⟨behind, hserve, hmoved⟩ := serve_of_ok hsound hread
  rw [hserve, hmoved.eq]

/-- A reader that hands back what is behind it gives the same answer and has the same bytes left. -/
theorem serve_alike (hsound : cursor.Sound) (request : Reader.Request) :
    (cursor.serve request).1 = (cursor.reader.serve request).1 ∧
      Moved cursor (cursor.serve request).2 (cursor.reader.serve request).2 := by
  cases hread : request.read cursor.reader with
  | error error =>
    rw [serve_of_error hsound hread, Reader.serve, hread]
    exact ⟨rfl, rfl, hsound, rfl⟩
  | ok result =>
    obtain ⟨behind, hserve, hmoved⟩ := serve_of_ok hsound hread
    rw [hserve, Reader.serve, hread]
    exact ⟨rfl, hmoved⟩

/-- A cursor serves requests as the list behind it does, whatever became of those before. -/
theorem serveAll_reader (hsound : cursor.Sound) : cursor.reader.serveAll requests =
    (cursor.serveAll requests).map fun served => (served.1, served.2.reader) := by
  induction requests generalizing cursor with
  | nil => rfl
  | cons request requests ih =>
    obtain ⟨hanswer, hmoved⟩ := serve_alike hsound request
    have hserve : cursor.reader.serve request =
        ((cursor.serve request).1, (cursor.serve request).2.reader) :=
      Prod.ext hanswer.symm hmoved.reader_eq.symm
    rw [Reader.serveAll, serveAll, List.map_cons, hserve, ih hmoved.sound]

/-- Where a cursor over `bytes` can be, and what it tells of it. -/
structure InBounds (bytes : List UInt8) (cursor : Cursor) : Prop where
  buffer_eq : cursor.buffer = bytes
  position_le : cursor.position ≤ bytes.length
  position_add_remaining : cursor.position + cursor.remaining = bytes.length
  hasMore_iff : cursor.hasMore = true ↔ 0 < cursor.remaining

/-- What a request comes to that is made of the cursor `before` over `bytes`. -/
structure Step (bytes : List UInt8) (request : Reader.Request) (before : Cursor)
    (answer : Except DecodeError Found) (behind : Cursor) : Prop where
  forward : before.position ≤ behind.position
  /-- A request that fails consumes nothing. -/
  stays : ∀ error, answer = .error error → behind = before
  fails_iff : ∀ error, answer = .error error ↔
    request.Fails before.position (bytes.drop before.position) error
  /-- A request that is served takes the next bytes. But for the end of the bytes, which is no
  matter of those that were taken, they alone say what is found: any other cursor that stands in
  front of the same bytes finds the same in them. -/
  takes : ∀ found, answer = .ok found → ∃ word,
    request.Takes found word ∧ word <+: bytes.drop before.position ∧
      behind.position = before.position + word.length ∧
      (request ≠ .finish → ∀ other : Cursor, other.position ≤ other.buffer.length →
        word <+: other.buffer.drop other.position → other.serve request =
          (.ok found, { other with position := other.position + word.length }))

/-- A run of a cursor over `bytes`: what each request comes to, whatever became of those before. -/
inductive Run (bytes : List UInt8) :
    Cursor → List Reader.Request → List (Except DecodeError Found × Cursor) → Prop
  | done {cursor : Cursor} : InBounds bytes cursor → Run bytes cursor [] []
  | step {before behind : Cursor} {request : Reader.Request} {requests : List Reader.Request}
    {answer : Except DecodeError Found} {served : List (Except DecodeError Found × Cursor)} :
    InBounds bytes before → Step bytes request before answer behind →
    Run bytes behind requests served →
    Run bytes before (request :: requests) ((answer, behind) :: served)

/-- A cursor that has not read more than there is stands within its bytes, and tells so. -/
theorem Sound.inBounds (h : cursor.Sound) : InBounds cursor.buffer cursor where
  buffer_eq := rfl
  position_le := h
  position_add_remaining := h.position_add_remaining
  hasMore_iff := hasMore_iff

/-- Every request of a cursor comes to what is said of one step. -/
theorem serve_step (hsound : cursor.Sound) (request : Reader.Request) :
    Step cursor.buffer request cursor (cursor.serve request).1 (cursor.serve request).2 := by
  have hfails : ∀ error, request.read cursor.reader = .error error ↔
      request.Fails cursor.position (cursor.buffer.drop cursor.position) error :=
    fun error => Reader.Request.read_eq_error_iff
  cases hread : request.read cursor.reader with
  | error failure =>
    rw [serve_of_error hsound hread]
    refine ⟨Nat.le_refl _, fun _ _ => rfl, fun error => ?_, nofun⟩
    rw [← hfails, hread, Except.error.injEq, Except.error.injEq]
  | ok result =>
    obtain ⟨found, after⟩ := result
    obtain ⟨behind, hserve, hmoved⟩ := serve_of_ok hsound hread
    obtain ⟨word, htakes, hrest, hposition⟩ := Reader.Request.takes_of_read hread
    have hbehind : behind.position = cursor.position + word.length := by
      rw [hmoved.eq]
      exact hposition
    rw [hserve]
    refine ⟨?_, nofun, fun error => ?_, ?_⟩
    · rw [hbehind]
      exact Nat.le_add_right ..
    · rw [← hfails, hread]
      exact iff_of_false nofun nofun
    · intro _ hfound
      cases hfound
      refine ⟨word, htakes, ⟨after.rest, hrest.symm⟩, hbehind, ?_⟩
      intro hrequest other hother hword
      exact serve_of_finds ((Reader.Request.obeys_takes hrequest).finds htakes) hother hword

/-- From one request to the next, a cursor runs as is said of a run. -/
theorem run_serveAll (hsound : cursor.Sound) (requests : List Reader.Request) :
    Run cursor.buffer cursor requests (cursor.serveAll requests) := by
  induction requests generalizing cursor with
  | nil => exact .done hsound.inBounds
  | cons request requests ih =>
    obtain ⟨-, hmoved⟩ := serve_alike hsound request
    have hrest := ih hmoved.sound
    rw [hmoved.buffer_eq] at hrest
    exact .step hsound.inBounds (serve_step hsound request) hrest

/-- **Failed reads consume nothing.** Whatever is asked of a cursor, and whatever of it fails, the
cursor stays within its bytes and never goes back. What it finds is what stands in front of it, and
it goes just behind that; where it finds nothing it stays where it was. A reader that hands back
what is behind it, and nothing where it fails, gives the same answers. -/
theorem serveAll_steadily (bytes : List UInt8) (requests : List Reader.Request) :
    Run bytes (ofBytes bytes) requests ((ofBytes bytes).serveAll requests) ∧
      (Reader.ofBytes bytes).serveAll requests =
        ((ofBytes bytes).serveAll requests).map fun served => (served.1, served.2.reader) :=
  ⟨run_serveAll (sound_ofBytes bytes) requests, serveAll_reader (sound_ofBytes bytes)⟩

/-- A text whose length says more than is there, and then the length alone. -/
example : (ofBytes [0, 5, 97, 98]).serveAll [.string, .u16] =
    [(.error (.unexpectedEof 5 2), ⟨[0, 5, 97, 98], 0⟩), (.ok (.number 5), ⟨[0, 5, 97, 98], 2⟩)] :=
  rfl

end Cursor

end HostBridge
