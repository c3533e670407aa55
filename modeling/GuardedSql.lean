import GuardedSql.Session
import GuardedSql.Proofs.Influence
import GuardedSql.Proofs.Scan
import GuardedSql.Proofs.Verdict
import GuardedSql.Proofs.Admission
import GuardedSql.Proofs.Lifecycle
import GuardedSql.Proofs.Disclosure
import GuardedSql.Proofs.Holes
import GuardedSql.Proofs.Unworded
import GuardedSql.Proofs.Shown
import GuardedSql.Proofs.Acceptance
import GuardedSql.Proofs.Decoding
import GuardedSql.Proofs.Preamble
import GuardedSql.Proofs.Deletion
import GuardedSql.Proofs.Hidden
import GuardedSql.Proofs.Residue
import GuardedSql.Proofs.Diagnostic
import GuardedSql.Proofs.Division
import GuardedSql.Proofs.Parameters
import GuardedSql.Proofs.Cursor
import GuardedSql.Proofs.SingleRow
import GuardedSql.Proofs.OtherDatabase
import GuardedSql.Proofs.ClosedDisplay
import GuardedSql.Proofs.LiteralEnd
