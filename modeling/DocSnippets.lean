import DocSnippets.Main
import DocSnippets.Proofs.Build.Conservation
import DocSnippets.Proofs.Build.Dedicated
import DocSnippets.Proofs.Command.ErrorLines
import DocSnippets.Proofs.Command.Shown
import DocSnippets.Proofs.Snippet.Block
import DocSnippets.Proofs.Snippet.Layout
import DocSnippets.Proofs.Snippet.NormalForm
import DocSnippets.Proofs.Snippet.Paragraph
import DocSnippets.Proofs.Snippet.Reach
import DocSnippets.Proofs.Snippet.Rendering
import DocSnippets.Proofs.Snippet.Verbatim
import DocSnippets.Proofs.Build.Roots
import DocSnippets.Proofs.Build.Schedule
import DocSnippets.Proofs.Table.Languages
import DocSnippets.Proofs.Table.Suggestions
import DocSnippets.Proofs.Artifact.Acceptance
import DocSnippets.Proofs.Page.BaseName
import DocSnippets.Proofs.Page.Placeholder
