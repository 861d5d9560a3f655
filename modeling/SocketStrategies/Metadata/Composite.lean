import SocketStrategies.Buffer.Factory
import SocketStrategies.Metadata.Error

/-!
# Composite metadata

A list of entries, each a media type and a content. On the wire an entry is a header, the length
of the content in three bytes and the content. The header is either one byte with its top bit set,
whose other bits are the number of a well-known type, or the length of the type's text less one
and then the text.

Entries whose number is not in the table are skipped on reading.
-/

namespace SocketStrategies.Composite

structure Entry where
  mediaType : MediaType
  content : Bytes
  deriving DecidableEq

/-- Whether two entries count as equal: equivalent types and the same content. -/
def Entry.equivalent (a b : Entry) : Bool :=
  a.mediaType.equivalent b.mediaType && a.content == b.content

/-- The media types that have a number. -/
def wellKnown : List (UInt8 × MediaType) :=
  [(0x01, .cbor), (0x05, .json), (0x06, .octetStream), (0x0A, .xml), (0x21, .textPlain),
    (0x7E, .routing), (0x7F, .compositeMetadata)]

def wellKnownType? (id : UInt8) : Option MediaType := wellKnown.lookup id

def wellKnownId? (m : MediaType) : Option UInt8 :=
  (wellKnown.find? fun e => e.2.equivalent m).map (·.1)

/-- The bit that marks a header as a number. -/
def wellKnownFlag : UInt8 := 0x80

/-! ## Writing -/

def writeHeader (m : MediaType) : Output MetadataError :=
  match wellKnownId? m with
  | some id => .done [id ||| wellKnownFlag]
  | none =>
      let text := m.render
      let n := Utf8.length text
      -- the byte is the length less one
      if n = 0 ∨ BoundedPart.maxLength .mediaType < n then .stop (.tooLong .mediaType n)
      else .done (UInt8.ofNat (n - 1) :: Utf8.encode text)

/-- Writes the content of an entry after its length. -/
def writeContent (content : Bytes) : Output MetadataError :=
  let n := content.length
  if BoundedPart.maxLength .entry < n then .stop (.tooLong .entry n)
  else .done (Bytes.bigEndian 3 n ++ content)

def writeEntry (e : Entry) : Output MetadataError :=
  (writeHeader e.mediaType).andThen (writeContent e.content)

/-- Writes entries up to the first that cannot be written. -/
def write (es : List Entry) : Output MetadataError :=
  es.foldr (fun e o => (writeEntry e).andThen o) (.done [])

/-- The room that is asked for: each content and a short header. -/
def capacity (es : List Entry) : Nat := (es.map fun e => e.content.length + 4).foldr (· + ·) 0

/-- Writes entries through a buffer factory. -/
def encode (es : List Entry) (f : Factory) : Except MetadataError Bytes × Factory :=
  f.emitFrozen (capacity es) (write es)

/-! ## Reading -/

/-- Splits off `n` bytes that are needed for a part. -/
def need (part : MetadataPart) (n : Nat) (b : Bytes) : Except MetadataError (Bytes × Bytes) :=
  match Bytes.take? n b with
  | some r => .ok r
  | none => .error (.truncated part)

/-- Reads the rest of a header whose first byte is given: the media type, or nothing for a number
that is not in the table. -/
def readHeader (header : UInt8) (b : Bytes) : Except MetadataError (Option MediaType × Bytes) :=
  if header &&& wellKnownFlag != 0 then .ok (wellKnownType? (header &&& 0x7F), b)
  else do
    let (raw, rest) ← need .mediaType (header.toNat + 1) b
    match Utf8.decode? raw with
    | none => .error (.invalidUtf8 "composite entry mime")
    | some text =>
        match MediaType.parse text with
        | .error e => .error (.invalidEntryType e)
        | .ok m => .ok (some m, rest)

/-- Reads the length of a content and the content. -/
def readContent (b : Bytes) : Except MetadataError (Bytes × Bytes) := do
  let (length, rest) ← need .entryLength 3 b
  need .entryContent (Bytes.ofBigEndian length) rest

/-- Reads what follows the first byte of an entry. There is no entry if it is to be skipped. -/
def readEntry (header : UInt8) (b : Bytes) : Except MetadataError (Option Entry × Bytes) := do
  let (m, rest) ← readHeader header b
  let (content, rest) ← readContent rest
  .ok (m.map fun m => ⟨m, content⟩, rest)

theorem need_eq_ok {part : MetadataPart} {n : Nat} {b a rest : Bytes}
    (h : need part n b = .ok (a, rest)) : b = a ++ rest ∧ a.length = n := by
  unfold need at h
  split at h
  · rename_i hr
    simp only [Except.ok.injEq] at h
    exact Bytes.eq_append_of_take? (h ▸ hr)
  · simp at h

theorem length_le_of_readHeader {header : UInt8} {b rest : Bytes} {m : Option MediaType}
    (h : readHeader header b = .ok (m, rest)) : rest.length ≤ b.length := by
  unfold readHeader at h
  split at h
  · simp only [Except.ok.injEq, Prod.mk.injEq] at h
    simp [h.2]
  · cases hn : need .mediaType (header.toNat + 1) b with
    | error e => simp [hn, bind, Except.bind] at h
    | ok r =>
        obtain ⟨raw, rest'⟩ := r
        have hb := (need_eq_ok hn).1
        simp only [hn, bind, Except.bind] at h
        split at h
        · simp at h
        · split at h
          · simp at h
          · simp only [Except.ok.injEq, Prod.mk.injEq] at h
            simp [hb, h.2]

theorem length_le_of_readContent {b content rest : Bytes}
    (h : readContent b = .ok (content, rest)) : rest.length ≤ b.length := by
  unfold readContent at h
  cases hn : need .entryLength 3 b with
  | error e => simp [hn, bind, Except.bind] at h
  | ok r =>
      obtain ⟨length, rest'⟩ := r
      simp only [hn, bind, Except.bind] at h
      have h1 := congrArg List.length (need_eq_ok hn).1
      have h2 := congrArg List.length (need_eq_ok h).1
      rw [List.length_append] at h1 h2
      omega

/-- An entry does not give back more than it was given. -/
theorem length_le_of_readEntry {header : UInt8} {b rest : Bytes} {e : Option Entry}
    (h : readEntry header b = .ok (e, rest)) : rest.length ≤ b.length := by
  unfold readEntry at h
  cases hh : readHeader header b with
  | error e => simp [hh, bind, Except.bind] at h
  | ok r =>
      obtain ⟨m, r1⟩ := r
      cases hc : readContent r1 with
      | error e => simp [hh, hc, bind, Except.bind] at h
      | ok s =>
          obtain ⟨content, r2⟩ := s
          simp only [hh, hc, bind, Except.bind, Except.ok.injEq, Prod.mk.injEq] at h
          have h1 := length_le_of_readHeader hh
          have h2 := length_le_of_readContent hc
          rw [← h.2]
          omega

/-- Reads entries to the end of the bytes. -/
def decode (b : Bytes) : Except MetadataError (List Entry) :=
  match b with
  | [] => .ok []
  | header :: rest =>
      match _h : readEntry header rest with
      | .error e => .error e
      | .ok (entry, rest') => (decode rest').map (entry.toList ++ ·)
termination_by b.length
decreasing_by
  have h := length_le_of_readEntry _h
  rw [List.length_cons]
  omega

end SocketStrategies.Composite
