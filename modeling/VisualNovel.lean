import VisualNovel.Main
import VisualNovel.Proofs.Script.Failure
import VisualNovel.Proofs.Script.Concat
import VisualNovel.Proofs.Script.Written
import VisualNovel.Proofs.Script.CallAsList
import VisualNovel.Proofs.Script.Source
import VisualNovel.Proofs.Frame.Notation
import VisualNovel.Proofs.Picture.DecodedOnce
import VisualNovel.Proofs.Stage.AttributeName
import VisualNovel.Proofs.Stage.Ranking
import VisualNovel.Proofs.Stage.WriteOrder
import VisualNovel.Proofs.Stage.History
import VisualNovel.Proofs.Stage.Retry
import VisualNovel.Proofs.Stage.Drawable
import VisualNovel.Proofs.Stage.Documented
import VisualNovel.Proofs.Stage.Fingerprint
import VisualNovel.Proofs.Player.Successive
import VisualNovel.Proofs.Player.Finished
import VisualNovel.Proofs.Player.Prompt
import VisualNovel.Proofs.Settings.Load
import VisualNovel.Proofs.Journal.Threshold
import VisualNovel.Proofs.Journal.Record
