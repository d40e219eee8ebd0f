import Marc.Bibliographic
import Marc.Text.Utf8

/-!
# Formats and locations

What kind of thing a record describes. The leader says it in two bytes, the type of record and
the bibliographic level; the rules of `ofTypeAndLevel` are tried in order. A thesis of the
library's institution is one whatever the leader says, and visual material is a video when a
field 007 says so.

Where an item is: the building that holds it, by the code of its location. A code that is not in the
table goes by its first character, so that one letter can stand for all locations of a building.

Model of `leader_format_code` (`Format.ofLeader`, with a test for each of `is_map`, `is_music`,
`is_mixed_material`, `is_visual_material`, `is_serial` and `is_book`), of `format_code`
(`Format.ofRecord`), of `format_name` (`Format.labelOf`, over `FORMAT_NAMES`) and of `building_name`
(`Location.buildingOf?`, over `BUILDINGS`).

Results:
* `Format.ofLeader_ne`: a leader names neither a thesis nor a video.
* `Format.ofRecord_eq_thesis_iff`, `Format.ofRecord_eq_video_iff`: which records have these formats.
-/

namespace Marc

/-! ## Formats -/

/-- The kinds of things that are told apart. -/
inductive Format where
  | computerFile
  | archive
  | object
  | score
  | recording
  | visual
  | video
  | periodical
  | map
  | mixed
  | book
  | thesis
  | unknown
  deriving DecidableEq

namespace Format

/-- The code of a format in the index. -/
def code : Format → String
  | .computerFile => "CF"
  | .archive => "BAM"
  | .object => "B3D"
  | .score => "MS"
  | .recording => "BSR"
  | .visual => "VM"
  | .video => "BV"
  | .periodical => "BP"
  | .map => "MP"
  | .mixed => "MX"
  | .book => "BK"
  | .thesis => "BTD"
  | .unknown => "XX"

/-- The bibliographic levels in general use. -/
def levels : List Char := ['a', 'b', 'c', 'd', 'i', 'm', 's']

/-- Whether type and level are those of music, printed or recorded. -/
def isMusic (type level : Char) : Bool :=
  ['c', 'd', 'i', 'j'].contains type && levels.contains level

/-- Whether type and level are those of visual material. -/
def isVisual (type level : Char) : Bool :=
  ['g', 'k', 'o', 'r'].contains type && levels.contains level

/-- Whether type and level are those of a periodical. -/
def isPeriodical (type level : Char) : Bool :=
  (type == 'a' && ['b', 's', 'i'].contains level) || level == 'e'

/-- Whether type and level are those of a map. -/
def isMap (type level : Char) : Bool := ['e', 'f'].contains type && levels.contains level

/-- Whether type and level are those of mixed material. -/
def isMixed (type level : Char) : Bool :=
  ['b', 'p'].contains type && ['a', 'b', 'c', 'd', 'm', 's'].contains level

/-- Whether type and level are those of a book. Level `p` is an old one that is still met with
type `a`. -/
def isBook (type level : Char) : Bool :=
  (['a', 't'].contains type && ['a', 'c', 'd', 'm'].contains level) || (type == 'a' && level == 'p')

/-- The format of a type of record and a bibliographic level. -/
def ofTypeAndLevel (type level : Char) : Format :=
  if type = 'm' then .computerFile
  else if type = 't' ∨ type = 'p' then .archive
  else if type = 'r' then .object
  else if isMusic type level then if type = 'c' then .score else .recording
  else if isVisual type level then .visual
  else if isPeriodical type level then .periodical
  else if isMap type level then .map
  else if isMixed type level then .mixed
  else if isBook type level then .book
  else .unknown

/-- The format of a leader: bytes 6 and 7 are type and level. A leader that is too short tells
nothing. -/
def ofLeader (leader : String) : Format :=
  match (Text.Utf8.encode leader.toList).drop 6 with
  | type :: level :: _ => ofTypeAndLevel (Char.ofNat type.toNat) (Char.ofNat level.toNat)
  | _ => .unknown

/-- Whether a physical description names a video. -/
def isVideo (description : String) : Bool :=
  description.toList.contains 'v' || description.toList.contains 'm'

/-- The format of a record. -/
def ofRecord (record : Record) (settings : Settings) : Format :=
  if isDissertation record settings then .thesis
  else if ofLeader record.leader = .visual ∧ (record.directValues "007").any isVideo then .video
  else ofLeader record.leader

/-- The labels of the codes that an index may hold. -/
def labels : List (String × String) :=
  [("AJ", "Journal"),
   ("AN", "Newspaper"),
   ("BI", "Biography"),
   ("BK", "Book"),
   ("CE", "Data File"),
   ("CR", "CDROM"),
   ("CS", "Software"),
   ("DI", "Dictionaries"),
   ("DR", "Directories"),
   ("EN", "Encyclopedias"),
   ("HT", "HathiTrust"),
   ("MN", "Maps-Atlas"),
   ("MP", "Map"),
   ("MS", "Musical Score"),
   ("MU", "Music"),
   ("MV", "Archive"),
   ("MW", "Manuscript"),
   ("MX", "Mixed Material"),
   ("PP", "Photographs & Pictorial Works"),
   ("RC", "Audio CD"),
   ("RL", "Audio LP"),
   ("RM", "Audio (music)"),
   ("RS", "Audio (spoken word)"),
   ("RU", "Audio"),
   ("SE", "Serial"),
   ("SX", "Serial"),
   ("VB", "Video (Blu-ray)"),
   ("VD", "Video (DVD)"),
   ("VG", "Video Games"),
   ("VH", "Video (VHS)"),
   ("VL", "Motion Picture"),
   ("VM", "Visual Material"),
   ("WM", "Microform"),
   ("XC", "Conference"),
   ("XS", "Statistics"),
   ("XX", "Unknown"),
   ("CF", "Computer File"),
   ("BAM", "Archives/Manuscripts"),
   ("BV", "Video"),
   ("BSR", "Sound Recording"),
   ("BP", "Periodical Title"),
   ("B3D", "3D object"),
   ("BTD", "Thesis/Dissertation")]

/-- The label of a code; a code without one is labelled as a book. -/
def labelOf (code : String) : String := (labels.lookup code).getD "Book"

variable {record : Record} {settings : Settings}

/-- No rule for type and level leads to a thesis or a video. -/
theorem ofTypeAndLevel_not_mem (type level : Char) :
    ofTypeAndLevel type level ∉ [thesis, video] := by
  unfold ofTypeAndLevel
  repeat' refine iteInduction (motive := (· ∉ [thesis, video])) (fun _ => ?_) fun _ => ?_
  all_goals decide

/-- A leader names neither a thesis nor a video. -/
theorem ofLeader_ne (leader : String) : ofLeader leader ≠ .thesis ∧ ofLeader leader ≠ .video := by
  unfold ofLeader
  split
  · simpa using ofTypeAndLevel_not_mem _ _
  · decide

/-- A thesis is known by the notes on it alone. -/
theorem ofRecord_eq_thesis_iff :
    ofRecord record settings = .thesis ↔ isDissertation record settings = true := by
  unfold ofRecord
  split
  · rename_i h
    exact iff_of_true rfl h
  · rename_i h
    refine iff_of_false ?_ h
    split
    · decide
    · exact (ofLeader_ne _).1

/-- A video is visual material with a description that says so, unless it is a thesis. -/
theorem ofRecord_eq_video_iff :
    ofRecord record settings = .video ↔
      isDissertation record settings = false ∧ ofLeader record.leader = .visual ∧
        ∃ description ∈ record.directValues "007", isVideo description = true := by
  unfold ofRecord
  split
  · rename_i h
    simp [h]
  · rename_i h
    rw [and_iff_right (Bool.eq_false_iff.mpr h), ← List.any_eq_true]
    split
    · rename_i hvideo
      exact iff_of_true rfl hvideo
    · rename_i hvideo
      exact iff_of_false (ofLeader_ne _).2 hvideo

end Format

/-! ## Locations -/

namespace Location

/-- The buildings of the location codes. -/
def buildings : List (List Char × String) :=
  [("q", "Annex"),
   ("h", "Hay"),
   ("j", "John Carter Brown"),
   ("o", "Orwig"),
   ("r", "Rockefeller"),
   ("s", "Sciences"),
   ("a", "Hay"),
   ("cass", "Rockefeller"),
   ("chin", "Rockefeller"),
   ("chref", "Rockefeller"),
   ("cours", "Rockefeller"),
   ("eacg", "Rockefeller"),
   ("eacr", "Rockefeller"),
   ("eacs", "Rockefeller"),
   ("japan", "Rockefeller"),
   ("jaref", "Rockefeller"),
   ("jmap", "Rockefeller"),
   ("koref", "Rockefeller"),
   ("linc", "Hay"),
   ("linrf", "Hay"),
   ("lowc", "Hay"),
   ("mddvd", "Sciences"),
   ("mdvid", "Sciences"),
   ("stor", "Rockefeller"),
   ("vc", "John Carter Brown"),
   ("xdoc", "Rockefeller"),
   ("xfch", "Rockefeller"),
   ("xrom", "Rockefeller"),
   ("xxxxx", "Rockefeller"),
   ("zd", "Rockefeller"),
   ("gar", "Rockefeller"),
   ("zdcom", "Rockefeller")].map fun entry => (entry.1.toList, entry.2)

/-- The building of a location code, in upper or lower case. -/
def buildingOf? (code : String) : Option String :=
  let lower := Text.toLower code.toList
  (buildings.lookup lower).or (buildings.lookup (lower.take 1))

end Location

end Marc
