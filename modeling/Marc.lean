import Marc.Format
import Marc.Exchange.Settings
import Marc.Proofs.Spec
import Marc.Proofs.Extraction.Codes
import Marc.Proofs.Extraction.Origins
import Marc.Proofs.Extraction.Renumbering
import Marc.Proofs.Extraction.Composition
import Marc.Proofs.Flattening
import Marc.Proofs.Flattening.Entries
import Marc.Proofs.Flattening.Spellings
import Marc.Proofs.Heading.Bases
import Marc.Proofs.Exchange.FieldObject
import Marc.Proofs.Exchange.Record
import Marc.Proofs.PublicationYear.Imprint
import Marc.Proofs.PublicationYear.KnownDates
import Marc.Proofs.PublicationYear.Overflow
import Marc.Proofs.PublicationYear.Repeated
import Marc.Proofs.PublicationYear.Tolerance
import Marc.Proofs.PublicationYear.Zero
import Marc.Proofs.ControlNumber.Inner
import Marc.Proofs.ControlNumber.Record
import Marc.Proofs.ControlNumber.Stacked
import Marc.Proofs.Dissertation
import Marc.Proofs.Exchange.Settings
import Marc.Proofs.Grouping
