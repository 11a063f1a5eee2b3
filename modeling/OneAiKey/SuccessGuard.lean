/-
  OneAiKey.SuccessGuard — the inspection of a successful response before it is
  passed on (`src/success_guard.rs`).

  The guard reads the body until it can tell an error envelope from a normal
  answer, until the prefix is full, or until its time is over; then it passes
  the prefix and the rest of the stream on.  The loop recurses on the items
  that the upstream still has.  Time enters through `LoopTiming`: for each turn,
  whether the deadline has passed before the poll or strikes during it.

  The JSON parser (`serde_json::from_slice`) is a parameter.
-/
import OneAiKey.ByteStream
import OneAiKey.State

namespace OneAiKey

/-! ## §1. Headers and content types. -/

/-- `eq_ignore_ascii_case`. -/
def eqIgnoreAsciiCase (a b : String) : Bool :=
  a.toList.map Char.toLower == b.toList.map Char.toLower

/-- `str::split` at a character. -/
def splitAt (separator : Char) (s : List Char) : List (List Char) :=
  s.splitOn separator

/-- `parse` of an unsigned integer below `2 ^ bits`: digits, after a plus sign at most. -/
def parseUnsigned (bits : Nat) (s : List Char) : Option Nat :=
  let digits := match s with
    | '+' :: rest => rest
    | s => s
  if digits.isEmpty || !digits.all Char.isDigit then none
  else
    let value := digits.foldl (fun n c => 10 * n + (c.toNat - '0'.toNat)) 0
    if value < 2 ^ bits then some value else none

/-- Does a `content-encoding` value name anything but the identity? -/
def nonIdentityEncoding (value : String) : Bool :=
  ((splitAt ',' value.toList).map trim).any fun part =>
    !part.isEmpty && !eqIgnoreAsciiCase (String.ofList part) "identity"

/-- The first header of this name. -/
def findHeader (headers : List (String × String)) (name : String) : Option String :=
  (headers.find? fun header => eqIgnoreAsciiCase header.1 name).map Prod.snd

/-- Is the body encoded? -/
def hasNonIdentityContentEncoding (headers : List (String × String)) : Bool :=
  (findHeader headers "content-encoding").any nonIdentityEncoding

/-- Does a header say that the body is empty? -/
def hasZeroContentLength (headers : List (String × String)) : Bool :=
  headers.any fun header => eqIgnoreAsciiCase header.1 "content-length" &&
    parseUnsigned 64 (trim header.2.toList) == some 0

/-- The length that the headers promise, unless the body is encoded. -/
def expectedBodyLenFromHeaders (headers : List (String × String)) : Option Nat :=
  if hasNonIdentityContentEncoding headers then none
  else (findHeader headers "content-length").bind fun value =>
    parseUnsigned 64 (trim value.toList)

/-- What the guard can read. -/
inductive GuardContentKind where
  | json
  | sse
  | other
  deriving DecidableEq, Repr

/-- The kind of a body by its content type, without the parameters. -/
def classifyContentType : Option String → GuardContentKind
  | none => .other
  | some contentType =>
      let mime := (trim ((splitAt ';' contentType.toList).headD [])).map Char.toLower
      if mime = "text/event-stream".toList then .sse
      else if mime = "application/json".toList ∨ "+json".toList <:+ mime then .json
      else .other

/-- A status of success that comes with a body. -/
def shouldGuardSuccessStatus (status : Nat) : Bool :=
  (200 ≤ status && status ≤ 299) && !(status == 204 || status == 205)

/-! ## §2. Server-sent events. -/

/-- Ends a line. -/
def lf : UInt8 := 10

/-- May come before the end of a line. -/
def cr : UInt8 := 13

/-- Ends the name of a field. -/
def colon : UInt8 := 58

/-- May follow the colon. -/
def space : UInt8 := 32

/-- A line without the carriage return at its end. -/
def stripCr (line : Bytes) : Bytes :=
  if line.getLast? = some cr then line.dropLast else line

/-- The data of an event, and how many bytes of the body it ends behind. -/
structure SseDataEvent where
  data : Bytes
  parsedBytes : Nat
  deriving DecidableEq, Repr

/-- `join_sse_data_lines`. -/
def joinSseDataLines (lines : List Bytes) : Bytes := [lf].intercalate lines

/-- The field name and the value of a line. -/
def sseField (line : Bytes) : Bytes × Bytes :=
  if colon ∈ line then
    let value := (line.dropWhile (· ≠ colon)).drop 1
    (line.takeWhile (· ≠ colon), if value.head? = some space then value.drop 1 else value)
  else (line, [])

/-- The bytes `data`. -/
def dataField : Bytes := "data".toList.map fun c => c.toNat.toUInt8

/-- The loop of `first_complete_data_event` over the complete lines, from byte `offset`
on; `fuel` bounds the lines. -/
def firstDataEventLoop (fuel : Nat) (rest : Bytes) (offset : Nat) (dataLines : List Bytes) :
    Option SseDataEvent :=
  match fuel with
  | 0 => none
  | fuel + 1 =>
      if lf ∈ rest then
        let raw := rest.takeWhile (· ≠ lf)
        let line := stripCr raw
        let rest := rest.drop (raw.length + 1)
        let offset := offset + raw.length + 1
        if line.isEmpty then
          if dataLines.isEmpty then firstDataEventLoop fuel rest offset dataLines
          else some ⟨joinSseDataLines dataLines, offset⟩
        else if line.head? = some colon then firstDataEventLoop fuel rest offset dataLines
        else
          let field := sseField line
          if field.1 = dataField then firstDataEventLoop fuel rest offset (dataLines ++ [field.2])
          else firstDataEventLoop fuel rest offset dataLines
      else none

/-- A body has no more lines than bytes. -/
def firstCompleteDataEvent (body : Bytes) : Option SseDataEvent :=
  firstDataEventLoop (body.length + 1) body 0 []

/-- Has a data field begun? -/
def hasPartialSseDataEvent (body : Bytes) : Bool :=
  ((body.splitOn lf).map stripCr).any fun line =>
    if colon ∈ line then line.takeWhile (· ≠ colon) == dataField else line == dataField

/-- The white space of `trim_ascii`. -/
def isAsciiWhitespace (b : UInt8) : Bool :=
  b == 9 || b == 10 || b == 12 || b == 13 || b == 32

/-- Without white space at both ends. -/
def trimAscii (value : Bytes) : Bytes :=
  ((value.dropWhile isAsciiWhitespace).reverse.dropWhile isAsciiWhitespace).reverse

/-! ## §3. JSON. -/

/-- A parsed value; an object has each key once. -/
inductive Json where
  | null
  | bool (value : Bool)
  | number (text : String)
  | string (value : String)
  | array (items : List Json)
  | object (fields : List (String × Json))

/-- What `serde_json::from_slice` answers. -/
inductive JsonParse where
  | value (value : Json)
  /-- The text ended too early (`error.is_eof()`). -/
  | eof
  | invalid

/-- `Value::get`. -/
def Json.get (key : String) : Json → Option Json
  | object fields => (fields.find? fun field => field.1 = key).map Prod.snd
  | _ => none

/-- Is the value an object? -/
def Json.isObject : Json → Bool
  | object _ => true
  | _ => false

/-- Is the value a string? -/
def Json.isString : Json → Bool
  | string _ => true
  | _ => false

/-- The two shapes of an error that a success may carry. -/
inductive StructuredErrorShape where
  | topLevelErrorObject
  | topLevelCodeAndMessage
  deriving DecidableEq, Repr

/-- The shape of an error, if the value has one. -/
def structuredErrorShape (value : Json) : Option StructuredErrorShape :=
  if (value.get "error").any (·.isObject) then some .topLevelErrorObject
  else if (value.get "code").any (·.isString) && (value.get "message").any (·.isString) then
    some .topLevelCodeAndMessage
  else none

/-! ## §4. The inspection of a prefix. -/

/-- Why the guard let a body pass. -/
inductive GuardOutcome where
  | pass
  | capExhausted
  | deadlineExhausted
  | parseUnsupported
  deriving DecidableEq, Repr

/-- What the guard knows after some of the body. -/
inductive GuardProgress where
  | classified (failure : ClassifiedFailure)
  | pass (outcome : GuardOutcome)
  | needMore

/-- The input of `guard_success_byte_stream`, without its stream. -/
structure GuardInput where
  status : Nat
  headers : List (String × String)
  expectedBodyLen : Option Nat
  contentType : Option String
  classifier : FailureClassifier
  maxBytes : Nat
  parseJson : Bytes → JsonParse

section Inspect

variable (input : GuardInput)

/-- An error envelope is classified; anything else gives `otherwise`. -/
def classifyStructuredJson (value : Json) (body : Bytes) (otherwise : GuardProgress) :
    GuardProgress :=
  if (structuredErrorShape value).isSome then
    .classified (input.classifier.classifyFailure input.status input.headers body)
  else otherwise

/-- What a prefix of a JSON body tells. -/
def inspectJsonPrefix (body : Bytes) (capExhausted bodyComplete : Bool) : GuardProgress :=
  match input.parseJson body with
  | .value value =>
      classifyStructuredJson input value body
        (.pass (if capExhausted then .capExhausted else .pass))
  | .eof =>
      if !capExhausted && !bodyComplete then .needMore
      else .pass (if capExhausted then .capExhausted else .parseUnsupported)
  | .invalid => .pass (if capExhausted then .capExhausted else .parseUnsupported)

/-- What a prefix of an event stream tells: its first complete event decides. -/
def inspectSsePrefix (body : Bytes) (capExhausted bodyComplete : Bool) : GuardProgress :=
  match firstCompleteDataEvent body with
  | none =>
      if capExhausted then .pass .capExhausted
      else if bodyComplete then .pass .parseUnsupported
      else .needMore
  | some event =>
      let trimmed := trimAscii event.data
      if trimmed = "[DONE]".toList.map (fun c => c.toNat.toUInt8) then .pass .pass
      else
        match input.parseJson trimmed with
        | .value value => classifyStructuredJson input value trimmed (.pass .pass)
        | .eof | .invalid => .pass .parseUnsupported

/-- `inspect_success_progress`; the guard never reports a deadline through it. -/
def inspectSuccessProgress (body : Bytes) (capExhausted bodyComplete : Bool) : GuardProgress :=
  if !shouldGuardSuccessStatus input.status then .pass .pass
  else
    match classifyContentType input.contentType with
    | .json => inspectJsonPrefix input body capExhausted bodyComplete
    | .sse => inspectSsePrefix input body capExhausted bodyComplete
    | .other => .pass (if capExhausted then .capExhausted else .parseUnsupported)

end Inspect

/-! ## §5. Passing through. -/

/-- The body passed on, or the failure that it carries. -/
inductive GuardResult where
  | passThrough (outcome : GuardOutcome) (replayed : Bytes) (stream : ByteStream)
  | classified (failure : ClassifiedFailure)

/-- Does the prefix end inside a JSON value or an event? -/
def structuredPrefixIsIncomplete (parseJson : Bytes → JsonParse) (contentKind : GuardContentKind)
    (pending : Bytes) : Bool :=
  if pending.isEmpty then false
  else
    match contentKind with
    | .json =>
        match parseJson pending with
        | .eof => true
        | _ => false
    | .sse => (firstCompleteDataEvent pending).isNone && hasPartialSseDataEvent pending
    | .other => false

/-- Is an end inside a value to be reported? -/
def shouldCheckIncompleteStructuredEof (outcome : GuardOutcome)
    (headers : List (String × String)) (contentType : Option String) : Bool :=
  if outcome = .capExhausted ∨ hasNonIdentityContentEncoding headers = true then false
  else classifyContentType contentType ≠ .other

/-- The rest of the stream, which has to be as long as promised. -/
def enforceContentLength (stream : ByteStream) (initialSeen expected : Nat) : ByteStream :=
  if expected ≤ initialSeen then stream else .contentLength stream initialSeen expected false

/-- The rest of the stream, which may not end inside a value. -/
def enforceStructuredEof (parseJson : Bytes → JsonParse) (stream : ByteStream) (replayed : Bytes)
    (contentKind : GuardContentKind) (maxBytes : Nat) : ByteStream :=
  .structuredEof stream (replayed.take (min replayed.length maxBytes))
    (structuredPrefixIsIncomplete parseJson contentKind) maxBytes
    (decide (maxBytes ≤ replayed.length)) false

/-- The bytes that were read, with the stream that goes on behind them. -/
def passThrough (input : GuardInput) (outcome : GuardOutcome) (replayed : Bytes)
    (stream : ByteStream) : GuardResult :=
  let stream :=
    match input.expectedBodyLen with
    | some expected => enforceContentLength stream replayed.length expected
    | none => stream
  let stream :=
    if shouldCheckIncompleteStructuredEof outcome input.headers input.contentType then
      enforceStructuredEof input.parseJson stream replayed
        (classifyContentType input.contentType) input.maxBytes
    else stream
  .passThrough outcome replayed stream

/-! ## §6. The guard. -/

/-- The clock in one turn of the loop. -/
inductive LoopTiming where
  /-- `checked_sub` finds that the time is over. -/
  | overdue
  /-- The timeout strikes before the stream delivers. -/
  | timedOut
  | inTime
  deriving DecidableEq, Repr

/-- `outcome_from_eof`. -/
def outcomeFromEof (input : GuardInput) (replayed : Bytes) : GuardOutcome :=
  match classifyContentType input.contentType with
  | .json | .sse => if replayed.isEmpty then .pass else .parseUnsupported
  | .other => .parseUnsupported

/-- The loop, from its `n`-th turn on, with the prefix read so far and the items that the
upstream still delivers. -/
def guardLoop (input : GuardInput) (timing : Nat → LoopTiming) (n : Nat) (replayed : Bytes)
    (items : List StreamItem) : Except IoError GuardResult :=
  match inspectSuccessProgress input replayed (decide (input.maxBytes ≤ replayed.length)) false with
  | .classified failure => .ok (.classified failure)
  | .pass outcome => .ok (passThrough input outcome replayed (.upstream items))
  | .needMore =>
      if input.maxBytes ≤ replayed.length then
        .ok (passThrough input .capExhausted replayed (.upstream items))
      else
        match timing n with
        | .overdue | .timedOut =>
            .ok (passThrough input .deadlineExhausted replayed (.upstream items))
        | .inTime =>
            match items with
            | .ok chunk :: items =>
                let available := input.maxBytes - replayed.length
                if chunk.length ≤ available then
                  guardLoop input timing (n + 1) (replayed ++ chunk) items
                else
                  let replayed := replayed ++ chunk.take available
                  let stream := prefixedBodyStream (chunk.drop available) (.upstream items)
                  match inspectSuccessProgress input replayed true false with
                  | .classified failure => .ok (.classified failure)
                  | _ => .ok (passThrough input .capExhausted replayed stream)
            | .error err :: _ =>
                if replayed.isEmpty then .error err
                else .ok (passThrough input .parseUnsupported replayed
                  (.once (some (.error err))))
            | [] =>
                match inspectSuccessProgress input replayed false true with
                | .classified failure => .ok (.classified failure)
                | .pass outcome => .ok (passThrough input outcome replayed (.upstream []))
                | .needMore =>
                    .ok (passThrough input (outcomeFromEof input replayed) replayed
                      (.upstream []))

/-- The guard of a success: read until the prefix decides, or until cap or deadline. -/
def guardSuccessByteStream (input : GuardInput) (timing : Nat → LoopTiming)
    (items : List StreamItem) : Except IoError GuardResult :=
  if !shouldGuardSuccessStatus input.status || hasZeroContentLength input.headers
      || input.maxBytes == 0 then
    .ok (passThrough input .pass [] (.upstream items))
  else guardLoop input timing 0 [] items

end OneAiKey
