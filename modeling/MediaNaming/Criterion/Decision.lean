import MediaNaming.Criterion.Basic
import MediaNaming.Criterion.Comparison
import MediaNaming.Placeholder.Value
import MediaNaming.Text.Numeral

/-!
How a question about a bundle is answered. A comparand is read before the datum is looked up, so
that a parameter which is no number is reported whatever the bundle holds. Texts are compared
without their case; a missing or blank one, and a list without any entry, answer to `unknown`.
-/

namespace MediaNaming

/-- The word that a missing text answers to. -/
def unknownWord : Text := "unknown".toList

def orMissing {α : Type} (what : Datum) : Option α → Except Datum α
  | some a => .ok a
  | none => .error what

/-- The number itself. An identifier that no signed word holds counts as the largest one. -/
def Figure.value (f : Figure) (b : Bundle) : Except Datum Int :=
  match f with
  | .seriesId => (orMissing .series b.seriesId?).map fun id => min (id.toNat : Int) Int64.maxValue.toInt
  | .groupId => do
    let r ← orMissing .release b.release
    let id ← orMissing .groupId r.groupId
    return id.toNat
  | .version => (orMissing .release b.release).map fun r => r.version.toNat
  | .episodeNumber => (orMissing .episode b.firstEpisode?).map fun e => e.number.toNat
  | .episodeCount => (orMissing .series b.series).map fun s => s.normalCount.toNat
  | .beginYear => do
    let s ← orMissing .series b.series
    let year ← orMissing .beginYear s.beginYear
    return year.toInt
  | .bitDepth => (orMissing .bitDepth b.file.bitDepth).map fun d => d.toNat
  | .width => (orMissing .resolution b.frameSize?).map fun size => size.width.toNat
  | .height => (orMissing .resolution b.frameSize?).map fun size => size.height.toNat

/-- The text itself, which may be missing from a record that is there. -/
def Wording.value (w : Wording) (b : Bundle) : Except Datum (Option Text) :=
  match w with
  | .episodeKind => (orMissing .episode b.firstEpisode?).map fun e => some [e.kind.letter]
  | .source => (orMissing .release b.release).map (·.source)
  | .seriesKind => (orMissing .series b.series).map fun s => s.kind.map (·.label.toList)
  | .videoCodec => (orMissing .release b.release).map (·.videoCodec)

def Listing.items (l : Listing) (b : Bundle) : Except Datum (List Text) :=
  (orMissing .release b.release).map fun r =>
    match l with
    | .dubLanguages => r.audioLanguages
    | .subtitleLanguages => r.subtitleLanguages
    | .audioCodecs => r.audioCodecs

/-- The words that a list without entries answers to. -/
def Listing.emptyWords : Listing → List Text
  | .subtitleLanguages => [unknownWord, "none".toList]
  | _ => [unknownWord]

/-- Whether a text answers to a word. -/
def answersTo (t : Option Text) (word : Text) : Bool :=
  Text.sameWords (((t.map Text.trim).filter (· ≠ [])).getD unknownWord) word

/-- Whether a list answers to a word. -/
def listAnswersTo (emptyWords items : List Text) (word : Text) : Bool :=
  if items.all Text.isBlankText then emptyWords.any (Text.sameLetters · word)
  else items.any fun item => Text.sameWords item.trim word

/-- Whether a probe finds a placeholder. The two that always have a word for the negative are
probed for the positive; the rest as they show by default. -/
def Placeholder.isFound (p : Placeholder) (b : Bundle) : Bool :=
  match p with
  | .censored => b.release.any fun r => r.censored == some true
  | .deprecated => b.release.any (·.deprecated)
  | p => p.isShown {} b

/-- The answer of a test on a number. -/
def Figure.ask (f : Figure) (op : Comparison) (b : Bundle) : Except TestFault Bool :=
  match Text.int64? op.value with
  | none => .error (.notANumber f.letter op.value)
  | some n => ((f.value b).map (op.compare · n)).mapError .missing

namespace Criterion

/-- The answer to a question, or why it has none. -/
def ask (k : Criterion) (parameter : Text) (b : Bundle) : Except TestFault Bool :=
  match k with
  | .figure f =>
    let op := Comparison.ofText parameter
    if f = .groupId ∧ op.relation = none ∧ Text.sameLetters op.value unknownWord then
      .ok (op.answer (b.release.bind (·.groupId)).isNone)
    else f.ask op b
  | .wording w =>
    let op := Comparison.ofPlainText parameter
    ((w.value b).map fun t => op.answer (answersTo t op.value)).mapError .missing
  | .listing l =>
    let op := Comparison.ofPlainText parameter
    ((l.items b).map fun items => op.answer (listAnswersTo l.emptyWords items op.value)).mapError
      .missing
  | .shown =>
    let op := Comparison.ofPlainText parameter
    match Placeholder.ofName? op.value with
    | none => .error (.unknownPlaceholder op.value)
    | some p => .ok (op.answer (p.isFound b))
  | .manual => .ok ((Comparison.ofPlainText parameter).answer b.isManual)
  | .linked => .ok ((Comparison.ofPlainText parameter).answer b.hasEpisode)

/-- Whether a test passes; one without an answer does not. -/
def holds (k : Criterion) (parameter : Text) (b : Bundle) : Bool :=
  match k.ask parameter b with
  | .ok answer => answer
  | .error _ => false

end Criterion

end MediaNaming
