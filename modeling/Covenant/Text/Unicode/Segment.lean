import Covenant.Text.Unicode.Runs

/-!
# Unicode break properties and ages

The properties text segmentation uses, one value per character: the grapheme cluster break,
word break and sentence break values (`Other` for the characters no rule names), and the age
of a character, the version of Unicode that assigned it. Values are also named by their
short aliases, compared loosely.
-/

namespace Covenant.Text.Unicode

/-- The grapheme cluster break values, in the order the table numbers them. -/
def graphemeBreakValues : Array String :=
  #["Other", "CR", "Control", "Extend", "L", "LF", "LV", "LVT", "Prepend", "Regional_Indicator", "SpacingMark", "T", "V", "ZWJ"]

/-- Where each run of one grapheme cluster break value starts, with the value's number. -/
def graphemeBreakTable : String :=
  String.join
    ["0.2 a.5 b.2 d.1 e.2 w.0 3j.2 4g.0 4t.2 4u.0 lc.3 og.0 w3.3 wa.0 13l.3 14u.0 14v.3 14w.0 14x.3 ",
     "14z.0 150.3 152.0 153.3 154.0 16o.8 16u.0 174.3 17f.0 17g.2 17h.0 18r.3 19c.0 19s.3 19t.0 1cm.3 ",
     "1ct.8 1cu.0 1cv.3 1d1.0 1d3.3 1d5.0 1d6.3 1da.0 1e7.8 1e8.0 1e9.3 1ea.0 1f4.3 1fv.0 1ie.3 1ip.0 ",
     "1kb.3 1kk.0 1kt.3 1ku.0 1li.3 1lm.0 1ln.3 1lw.0 1lx.3 1m0.0 1m1.3 1m6.0 1nd.3 1ng.0 1ow.8 1oy.0 ",
     "1p4.3 1pc.0 1qi.3 1r6.8 1r7.3 1s3.a 1s4.0 1tm.3 1tn.a 1to.3 1tp.0 1tq.a 1tt.3 1u1.a 1u5.3 1u6.a ",
     "1u8.0 1u9.3 1ug.0 1uq.3 1us.0 1vl.3 1vm.a 1vo.0 1x8.3 1x9.0 1xa.3 1xb.a 1xd.3 1xh.0 1xj.a 1xl.0 ",
     "1xn.a 1xp.3 1xq.0 1xz.3 1y0.0 1ya.3 1yc.0 1z2.3 1z3.0 1z5.3 1z7.a 1z8.0 20s.3 20t.0 20u.a 20x.3 ",
     "20z.0 213.3 215.0 217.3 21a.0 21d.3 21e.0 228.3 22a.0 22d.3 22e.0 22p.3 22r.a 22s.0 24c.3 24d.0 ",
     "24e.a 24h.3 24m.0 24n.3 24p.a 24q.0 24r.a 24t.3 24u.0 25e.3 25g.0 262.3 268.0 269.3 26a.a 26c.0 ",
     "27w.3 27x.0 27y.3 280.a 281.3 285.0 287.a 289.0 28b.a 28d.3 28e.0 28l.3 28o.0 28y.3 290.0 29u.3 ",
     "29v.0 2bi.3 2bj.a 2bk.3 2bl.a 2bn.0 2bq.a 2bt.0 2bu.a 2bx.3 2by.0 2c7.3 2c8.0 2dc.3 2dd.a 2dg.3 ",
     "2dh.0 2f0.3 2f1.0 2f2.3 2f5.a 2f9.0 2fa.3 2fd.0 2fe.3 2fi.0 2fp.3 2fr.0 2g2.3 2g4.0 2gx.3 2gy.a ",
     "2h0.0 2ik.3 2il.0 2im.a 2in.3 2io.a 2iq.3 2ir.a 2it.0 2iu.3 2iv.a 2ix.0 2iy.a 2j0.3 2j2.0 2j9.3 ",
     "2jb.0 2jm.3 2jo.0 2k3.a 2k4.0 2kg.3 2ki.a 2kk.0 2m3.3 2m5.0 2m6.3 2m7.a 2m9.3 2md.0 2me.a 2mh.0 ",
     "2mi.a 2ml.3 2mm.8 2mn.0 2mv.3 2mw.0 2n6.3 2n8.0 2o1.3 2o2.a 2o4.0 2q2.3 2q3.0 2q7.3 2q8.a 2qa.3 ",
     "2qd.0 2qe.3 2qf.0 2qg.a 2qn.3 2qo.0 2r6.a 2r8.0 2sx.3 2sy.0 2sz.a 2t0.3 2t7.0 2tj.3 2tr.0 2wh.3 ",
     "2wi.0 2wj.a 2wk.3 2wt.0 2x4.3 2xb.0 2zc.3 2ze.0 305.3 306.0 307.3 308.0 309.3 30a.0 30e.a 30g.0 ",
     "31t.3 327.a 328.3 32d.0 32e.3 32g.0 32l.3 32w.0 32x.3 33x.0 346.3 347.0 371.3 375.a 376.3 37c.0 ",
     "37d.3 37f.a 37h.3 37j.0 386.a 388.3 38a.0 38e.3 38h.0 38x.3 391.0 39e.3 39f.0 39g.a 39h.3 39j.0 ",
     "39p.3 39q.0 3a5.3 3a6.0 3cw.4 3fk.c 3hk.b 3k0.0 3tp.3 3ts.0 4k2.3 4k5.a 4k6.0 4ky.3 4l0.a 4l1.0 ",
     "4lu.3 4lw.0 4mq.3 4ms.0 4ok.3 4om.a 4on.3 4ou.a 4p2.3 4p3.a 4p5.3 4pg.0 4pp.3 4pq.0 4qz.3 4r2.2 ",
     "4r3.3 4r4.0 4ud.3 4uf.0 4vd.3 4ve.0 4yo.3 4yr.a 4yv.3 4yx.a 4z0.0 4z4.a 4z6.3 4z7.a 4zd.3 4zg.0 ",
     "55j.3 55l.a 55n.3 55o.0 579.a 57a.3 57b.a 57c.3 57j.0 57k.3 57l.0 57m.3 57n.0 57p.3 57x.a 583.3 ",
     "58d.0 58f.3 58g.0 59s.3 5an.0 5c0.3 5c4.a 5c5.0 5dg.3 5dn.a 5do.3 5dp.a 5du.3 5dv.a 5dx.0 5ez.3 ",
     "5f8.0 5fk.3 5fm.a 5fn.0 5gh.a 5gi.3 5gm.a 5go.3 5gq.a 5gr.3 5gu.0 5ie.3 5if.a 5ig.3 5ii.a 5il.3 ",
     "5im.a 5in.3 5iq.a 5is.0 5k4.a 5kc.3 5kk.a 5km.3 5ko.0 5ow.3 5oz.0 5p0.3 5pd.a 5pe.3 5pl.0 5pp.3 ",
     "5pq.0 5pw.3 5px.0 5pz.a 5q0.3 5q2.0 5vk.3 5xc.0 6bv.2 6bw.3 6bx.d 6by.2 6c0.0 6co.2 6cv.0 6e8.2 ",
     "6eo.0 6hc.3 6i9.0 8vj.3 8vm.0 8zj.3 8zk.0 928.3 934.0 9ii.3 9io.0 9ll.3 9ln.0 wvj.3 wvn.0 wvo.3 ",
     "wvy.0 wwu.3 www.0 wz4.3 wz6.0 x6q.3 x6r.0 x6u.3 x6v.0 x6z.3 x70.0 x7n.a x7p.3 x7r.a x7s.0 x7w.3 ",
     "x7x.0 xa8.a xaa.0 xbo.a xc4.3 xc6.0 xcw.3 xde.0 xdr.3 xds.0 xeu.3 xf2.0 xfr.3 xg2.a xg4.0 xgg.4 ",
     "xh9.0 xhc.3 xhf.a xhg.0 xir.3 xis.a xiu.3 xiy.a xj0.3 xj2.a xj5.0 xk5.3 xk6.0 xm1.3 xm7.a xm9.3 ",
     "xmb.a xmd.3 xmf.0 xmr.3 xms.0 xn0.3 xn1.a xn2.0 xoc.3 xod.0 xps.3 xpt.0 xpu.3 xpx.0 xpz.3 xq1.0 ",
     "xq6.3 xq8.0 xq9.3 xqa.0 xrf.a xrg.3 xri.a xrk.0 xrp.a xrq.3 xrr.0 xyb.a xyd.3 xye.a xyg.3 xyh.a ",
     "xyj.0 xyk.a xyl.3 xym.0 xz4.6 xz5.7 xzw.6 xzx.7 y0o.6 y0p.7 y1g.6 y1h.7 y28.6 y29.7 y30.6 y31.7 ",
     "y3s.6 y3t.7 y4k.6 y4l.7 y5c.6 y5d.7 y64.6 y65.7 y6w.6 y6x.7 y7o.6 y7p.7 y8g.6 y8h.7 y98.6 y99.7 ",
     "ya0.6 ya1.7 yas.6 yat.7 ybk.6 ybl.7 ycc.6 ycd.7 yd4.6 yd5.7 ydw.6 ydx.7 yeo.6 yep.7 yfg.6 yfh.7 ",
     "yg8.6 yg9.7 yh0.6 yh1.7 yhs.6 yht.7 yik.6 yil.7 yjc.6 yjd.7 yk4.6 yk5.7 ykw.6 ykx.7 ylo.6 ylp.7 ",
     "ymg.6 ymh.7 yn8.6 yn9.7 yo0.6 yo1.7 yos.6 yot.7 ypk.6 ypl.7 yqc.6 yqd.7 yr4.6 yr5.7 yrw.6 yrx.7 ",
     "yso.6 ysp.7 ytg.6 yth.7 yu8.6 yu9.7 yv0.6 yv1.7 yvs.6 yvt.7 ywk.6 ywl.7 yxc.6 yxd.7 yy4.6 yy5.7 ",
     "yyw.6 yyx.7 yzo.6 yzp.7 z0g.6 z0h.7 z18.6 z19.7 z20.6 z21.7 z2s.6 z2t.7 z3k.6 z3l.7 z4c.6 z4d.7 ",
     "z54.6 z55.7 z5w.6 z5x.7 z6o.6 z6p.7 z7g.6 z7h.7 z88.6 z89.7 z90.6 z91.7 z9s.6 z9t.7 zak.6 zal.7 ",
     "zbc.6 zbd.7 zc4.6 zc5.7 zcw.6 zcx.7 zdo.6 zdp.7 zeg.6 zeh.7 zf8.6 zf9.7 zg0.6 zg1.7 zgs.6 zgt.7 ",
     "zhk.6 zhl.7 zic.6 zid.7 zj4.6 zj5.7 zjw.6 zjx.7 zko.6 zkp.7 zlg.6 zlh.7 zm8.6 zm9.7 zn0.6 zn1.7 ",
     "zns.6 znt.7 zok.6 zol.7 zpc.6 zpd.7 zq4.6 zq5.7 zqw.6 zqx.7 zro.6 zrp.7 zsg.6 zsh.7 zt8.6 zt9.7 ",
     "zu0.6 zu1.7 zus.6 zut.7 zvk.6 zvl.7 zwc.6 zwd.7 zx4.6 zx5.7 zxw.6 zxx.7 zyo.6 zyp.7 zzg.6 zzh.7 ",
     "1008.6 1009.7 1010.6 1011.7 101s.6 101t.7 102k.6 102l.7 103c.6 103d.7 1044.6 1045.7 104w.6 ",
     "104x.7 105o.6 105p.7 106g.6 106h.7 1078.6 1079.7 1080.6 1081.7 108s.6 108t.7 109k.6 109l.7 ",
     "10ac.6 10ad.7 10b4.6 10b5.7 10bw.6 10bx.7 10co.6 10cp.7 10dg.6 10dh.7 10e8.6 10e9.7 10f0.6 ",
     "10f1.7 10fs.6 10ft.7 10gk.6 10gl.7 10hc.6 10hd.7 10i4.6 10i5.7 10iw.6 10ix.7 10jo.6 10jp.7 ",
     "10kg.6 10kh.7 10l8.6 10l9.7 10m0.6 10m1.7 10ms.6 10mt.7 10nk.6 10nl.7 10oc.6 10od.7 10p4.6 ",
     "10p5.7 10pw.6 10px.7 10qo.6 10qp.7 10rg.6 10rh.7 10s8.6 10s9.7 10t0.6 10t1.7 10ts.6 10tt.7 ",
     "10uk.6 10ul.7 10vc.6 10vd.7 10w4.6 10w5.7 10ww.6 10wx.7 10xo.6 10xp.7 10yg.6 10yh.7 10z8.6 ",
     "10z9.7 1100.6 1101.7 110s.6 110t.7 111k.6 111l.7 112c.6 112d.7 1134.6 1135.7 113w.6 113x.7 ",
     "114o.6 114p.7 115g.6 115h.7 1168.6 1169.7 1170.6 1171.7 117s.6 117t.7 118k.6 118l.7 119c.6 ",
     "119d.7 11a4.6 11a5.7 11aw.6 11ax.7 11bo.6 11bp.7 11cg.6 11ch.7 11d8.6 11d9.7 11e0.6 11e1.7 ",
     "11es.6 11et.7 11fk.6 11fl.7 11gc.6 11gd.7 11h4.6 11h5.7 11hw.6 11hx.7 11io.6 11ip.7 11jg.6 ",
     "11jh.7 11k8.6 11k9.7 11l0.6 11l1.7 11ls.6 11lt.7 11mk.6 11ml.7 11nc.6 11nd.7 11o4.6 11o5.7 ",
     "11ow.6 11ox.7 11po.6 11pp.7 11qg.6 11qh.7 11r8.6 11r9.7 11s0.6 11s1.7 11ss.6 11st.7 11tk.6 ",
     "11tl.7 11uc.6 11ud.7 11v4.6 11v5.7 11vw.6 11vx.7 11wo.6 11wp.7 11xg.6 11xh.7 11y8.6 11y9.7 ",
     "11z0.6 11z1.7 11zs.6 11zt.7 120k.6 120l.7 121c.6 121d.7 1224.6 1225.7 122w.6 122x.7 123o.6 ",
     "123p.7 124g.6 124h.7 1258.6 1259.7 1260.6 1261.7 126s.6 126t.7 127k.6 127l.7 128c.6 128d.7 ",
     "1294.6 1295.7 129w.6 129x.7 12ao.6 12ap.7 12bg.6 12bh.7 12c8.6 12c9.7 12d0.6 12d1.7 12ds.6 ",
     "12dt.7 12ek.6 12el.7 12fc.6 12fd.7 12g4.6 12g5.7 12gw.6 12gx.7 12ho.6 12hp.7 12ig.6 12ih.7 ",
     "12j8.6 12j9.7 12k0.6 12k1.7 12ks.6 12kt.7 12lk.6 12ll.7 12mc.6 12md.7 12n4.6 12n5.7 12nw.6 ",
     "12nx.7 12oo.6 12op.7 12pg.6 12ph.7 12q8.6 12q9.7 12r0.6 12r1.7 12rs.6 12rt.7 12sk.6 12sl.7 ",
     "12tc.6 12td.7 12u4.6 12u5.7 12uw.6 12ux.7 12vo.6 12vp.7 12wg.6 12wh.7 12x8.6 12x9.7 12y0.6 ",
     "12y1.7 12ys.6 12yt.7 12zk.6 12zl.7 130c.6 130d.7 1314.6 1315.7 131w.6 131x.7 132o.6 132p.7 ",
     "133g.6 133h.7 1348.6 1349.7 1350.6 1351.7 135s.6 135t.7 136k.6 136l.7 137c.6 137d.7 1384.6 ",
     "1385.7 138w.6 138x.7 139o.6 139p.7 13ag.6 13ah.7 13b8.6 13b9.7 13c0.6 13c1.7 13cs.6 13ct.7 ",
     "13dk.6 13dl.7 13ec.6 13ed.7 13f4.6 13f5.7 13fw.6 13fx.7 13go.6 13gp.7 13hg.6 13hh.7 13i8.6 ",
     "13i9.7 13j0.6 13j1.7 13js.6 13jt.7 13kk.6 13kl.7 13lc.6 13ld.7 13m4.6 13m5.7 13mw.6 13mx.7 ",
     "13no.6 13np.7 13og.6 13oh.7 13p8.6 13p9.7 13q0.6 13q1.7 13qs.6 13qt.7 13rk.6 13rl.7 13sc.6 ",
     "13sd.7 13t4.6 13t5.7 13tw.6 13tx.7 13uo.6 13up.7 13vg.6 13vh.7 13w8.6 13w9.7 13x0.6 13x1.7 ",
     "13xs.6 13xt.7 13yk.6 13yl.7 13zc.6 13zd.7 1404.6 1405.7 140w.6 140x.7 141o.6 141p.7 142g.6 ",
     "142h.7 1438.6 1439.7 1440.6 1441.7 144s.6 144t.7 145k.6 145l.7 146c.6 146d.7 1474.6 1475.7 ",
     "147w.6 147x.7 148o.6 148p.7 149g.6 149h.7 14a8.6 14a9.7 14b0.6 14b1.7 14bs.6 14bt.7 14ck.6 ",
     "14cl.7 14dc.6 14dd.7 14e4.6 14e5.7 14ew.6 14ex.7 14fo.6 14fp.7 14gg.6 14gh.7 14h8.6 14h9.7 ",
     "14i0.6 14i1.7 14is.6 14it.7 14jk.6 14jl.7 14kc.6 14kd.7 14l4.6 14l5.7 14lw.6 14lx.7 14mo.6 ",
     "14mp.7 14ng.6 14nh.7 14o8.6 14o9.7 14p0.6 14p1.7 14ps.6 14pt.7 14qk.6 14ql.7 14rc.6 14rd.7 ",
     "14s4.6 14s5.7 14sw.6 14sx.7 14to.6 14tp.7 14ug.6 14uh.7 14v8.6 14v9.7 14w0.6 14w1.7 14ws.6 ",
     "14wt.7 14xk.6 14xl.7 14yc.6 14yd.7 14z4.6 14z5.7 14zw.6 14zx.7 150o.6 150p.7 151g.6 151h.7 ",
     "1528.6 1529.7 1530.6 1531.7 153s.6 153t.7 154k.6 154l.7 155c.6 155d.7 1564.6 1565.7 156w.6 ",
     "156x.7 157o.6 157p.7 158g.6 158h.7 1598.6 1599.7 15a0.6 15a1.7 15as.6 15at.7 15bk.6 15bl.7 ",
     "15cc.6 15cd.7 15d4.6 15d5.7 15dw.6 15dx.7 15eo.6 15ep.7 15fg.6 15fh.7 15g8.6 15g9.7 15h0.6 ",
     "15h1.7 15hs.6 15ht.7 15ik.6 15il.7 15jc.6 15jd.7 15k4.6 15k5.7 15kw.6 15kx.7 15lo.6 15lp.7 ",
     "15mg.6 15mh.7 15n8.6 15n9.7 15o0.6 15o1.7 15os.6 15ot.7 15pk.6 15pl.7 15qc.6 15qd.7 15r4.6 ",
     "15r5.7 15rw.6 15rx.7 15so.6 15sp.7 15tg.6 15th.7 15u8.6 15u9.7 15v0.6 15v1.7 15vs.6 15vt.7 ",
     "15wk.6 15wl.7 15xc.6 15xd.7 15y4.6 15y5.7 15yw.6 15yx.7 15zo.6 15zp.7 160g.6 160h.7 1618.6 ",
     "1619.7 1620.6 1621.7 162s.6 162t.7 163k.6 163l.7 164c.6 164d.7 1654.6 1655.7 165w.6 165x.7 ",
     "166o.6 166p.7 167g.6 167h.7 1688.6 1689.7 1690.6 1691.7 169s.6 169t.7 16ak.6 16al.7 16bc.6 ",
     "16bd.7 16c4.6 16c5.7 16cw.6 16cx.7 16do.6 16dp.7 16eg.6 16eh.7 16f8.6 16f9.7 16g0.6 16g1.7 ",
     "16gs.6 16gt.7 16hk.6 16hl.7 16ic.6 16id.7 16j4.6 16j5.7 16jw.6 16jx.7 16ko.6 16kp.7 16lg.0 ",
     "16ls.c 16mf.0 16mj.b 16nw.0 1dlq.3 1dlr.0 1e68.3 1e6o.0 1e74.3 1e7k.0 1edb.2 1edc.0 1ehq.3 ",
     "1ehs.0 1ek0.2 1ekc.0 1eyl.3 1eym.0 1f4w.3 1f4x.0 1f92.3 1f97.0 1gjl.3 1gjo.0 1gjp.3 1gjr.0 ",
     "1gjw.3 1gk0.0 1gl4.3 1gl7.0 1glb.3 1glc.0 1gpx.3 1gpz.0 1h5w.3 1h60.0 1hgr.3 1hgt.0 1hj1.3 ",
     "1hj4.0 1hl2.3 1hld.0 1hmq.3 1hmu.0 1hq8.a 1hq9.3 1hqa.a 1hqb.0 1hrs.3 1hs7.0 1htc.3 1htd.0 ",
     "1htf.3 1hth.0 1htr.3 1htu.a 1htv.0 1hv4.a 1hv7.3 1hvb.a 1hvd.3 1hvf.0 1hvh.8 1hvi.0 1hvm.3 ",
     "1hvn.0 1hvx.8 1hvy.0 1hxc.3 1hxf.0 1hyf.3 1hyk.a 1hyl.3 1hyt.0 1hz9.a 1hzb.0 1i0j.3 1i0k.0 ",
     "1i0w.3 1i0y.a 1i0z.0 1i2b.a 1i2e.3 1i2n.a 1i2p.0 1i2q.8 1i2s.0 1i2x.3 1i31.0 1i32.a 1i33.3 ",
     "1i34.0 1i5o.a 1i5r.3 1i5u.a 1i5w.3 1i5x.a 1i5y.3 1i60.0 1i66.3 1i67.0 1i69.3 1i6a.0 1ian.3 ",
     "1iao.a 1iar.3 1iaz.0 1ibk.3 1ibm.a 1ibo.0 1id7.3 1id9.0 1ida.3 1idb.a 1idc.3 1idd.a 1idh.0 ",
     "1idj.a 1idl.0 1idn.a 1idq.0 1idz.3 1ie0.0 1iea.a 1iec.0 1iee.3 1iel.0 1ieo.3 1iet.0 1ik5.a ",
     "1ik8.3 1ikg.a 1iki.3 1ikl.a 1ikm.3 1ikn.0 1ila.3 1ilb.0 1ink.3 1inl.a 1inn.3 1int.a 1inu.3 ",
     "1inv.a 1inx.3 1iny.a 1inz.3 1io1.a 1io2.3 1io4.0 1iun.3 1iuo.a 1iuq.3 1iuu.0 1iuw.a 1iv0.3 ",
     "1iv2.a 1iv3.3 1iv5.0 1ivw.3 1ivy.0 1iy8.a 1iyb.3 1iyj.a 1iyl.3 1iym.a 1iyn.3 1iyp.0 1j1n.3 ",
     "1j1o.a 1j1p.3 1j1q.a 1j1s.3 1j1y.a 1j1z.3 1j20.0 1j4t.3 1j4w.0 1j4y.3 1j52.a 1j53.3 1j58.0 ",
     "1jcc.a 1jcf.3 1jco.a 1jcp.3 1jcr.0 1jjk.3 1jjl.a 1jjq.0 1jjr.a 1jjt.0 1jjv.3 1jjx.a 1jjy.3 ",
     "1jjz.8 1jk0.a 1jk1.8 1jk2.a 1jk3.3 1jk4.0 1jo1.a 1jo4.3 1jo8.0 1joa.3 1joc.a 1jog.3 1joh.0 ",
     "1jok.a 1jol.0 1jpd.3 1jpn.0 1jqr.3 1jqx.a 1jqy.8 1jqz.3 1jr3.0 1jrb.3 1jrc.0 1jrl.3 1jrr.a ",
     "1jrt.3 1jrw.0 1jt0.8 1jt6.3 1jtj.a 1jtk.3 1jtm.0 1k4v.a 1k4w.3 1k53.0 1k54.3 1k5a.a 1k5b.3 ",
     "1k5c.0 1k7m.3 1k88.0 1k89.a 1k8a.3 1k8h.a 1k8i.3 1k8k.a 1k8l.3 1k8n.0 1kc1.3 1kc7.0 1kca.3 ",
     "1kcb.0 1kcc.3 1kce.0 1kcf.3 1kcm.8 1kcn.3 1kco.0 1kei.a 1ken.0 1keo.3 1keq.0 1ker.a 1ket.3 ",
     "1keu.a 1kev.3 1kew.0 1koj.3 1kol.a 1kon.0 1kow.3 1koy.8 1koz.a 1kp0.0 1kqc.a 1kqe.3 1kqj.0 ",
     "1kqm.a 1kqo.3 1kqp.a 1kqq.3 1kqr.0 1ovk.2 1ow0.3 1ow1.0 1ow7.3 1owm.0 1zow.3 1zp1.0 1zqo.3 ",
     "1zqv.0 20jz.3 20k0.0 20k1.a 20lk.0 20lr.3 20lv.0 20o4.3 20o5.0 20og.a 20oi.0 2ftp.3 2ftr.0 ",
     "2fts.2 2ftw.0 2jgg.3 2jhq.0 2jhs.3 2jif.0 2jxh.3 2jxi.a 2jxj.3 2jxm.0 2jxp.a 2jxq.3 2jxv.2 ",
     "2jy3.3 2jyb.0 2jyd.3 2jyk.0 2jze.3 2jzi.0 2k3m.3 2k3p.0 2lmo.3 2lo7.0 2lob.3 2lpp.0 2lpx.3 ",
     "2lpy.0 2lqc.3 2lqd.0 2lqz.3 2lr4.0 2lr5.3 2lrk.0 2mtc.3 2mtj.0 2mtk.3 2mu1.0 2mu3.3 2mua.0 ",
     "2mub.3 2mud.0 2mue.3 2muj.0 2mxb.3 2mxc.0 2n1s.3 2n1z.0 2nce.3 2ncf.0 2ne4.3 2ne8.0 2nsc.3 ",
     "2nsg.0 2ok0.3 2ok7.0 2on8.3 2onf.0 2qcm.9 2qdc.0 2qrf.3 2qrk.0 jny8.2 jnz4.3 jo1s.2 jo5c.3 ",
     "joc0.2 jr40.0"]

def graphemeBreakRuns : Array (Nat × Nat) := readRuns graphemeBreakTable

/-- Each loose alias of a grapheme cluster break value other than `Other`, with the value's number. -/
def graphemeBreakAliases : List (String × Nat) :=
  [("cn", 2), ("control", 2), ("cr", 1), ("ex", 3), ("extend", 3), ("l", 4), ("lf", 5), ("lv", 6), ("lvt", 7), ("pp", 8), ("prepend", 8), ("regionalindicator", 9), ("ri", 9), ("sm", 10), ("spacingmark", 10), ("t", 11), ("v", 12), ("zwj", 13)]

/-- The word break values, in the order the table numbers them. -/
def wordBreakValues : Array String :=
  #["Other", "ALetter", "CR", "Double_Quote", "Extend", "ExtendNumLet", "Format", "Hebrew_Letter", "Katakana", "LF", "MidLetter", "MidNum", "MidNumLet", "Newline", "Numeric", "Regional_Indicator", "Single_Quote", "WSegSpace", "ZWJ"]

/-- Where each run of one word break value starts, with the value's number. -/
def wordBreakTable : String :=
  String.join
    ["0.0 a.9 b.d d.2 e.0 w.h x.0 y.3 z.0 13.g 14.0 18.b 19.0 1a.c 1b.0 1c.e 1m.a 1n.b 1o.0 1t.1 2j.0 ",
     "2n.5 2o.0 2p.1 3f.0 3p.d 3q.0 4q.1 4r.0 4t.6 4u.0 51.1 52.0 53.a 54.0 56.1 57.0 5c.1 5z.0 60.1 ",
     "6v.0 6w.1 k8.0 ke.1 lc.4 og.1 ol.0 om.1 oo.0 oq.1 ou.b ov.1 ow.0 p2.1 p3.a p4.1 p7.0 p8.1 p9.0 ",
     "pa.1 pu.0 pv.1 s6.0 s7.1 w2.0 w3.4 wa.1 10w.0 10x.1 11z.0 121.1 125.0 126.1 127.a 128.1 13d.b ",
     "13e.1 13f.0 13l.4 14u.0 14v.4 14w.0 14x.4 14z.0 150.4 152.0 153.4 154.0 15c.7 163.0 167.7 16b.1 ",
     "16c.a 16d.0 16o.6 16u.0 170.b 172.0 174.4 17f.0 17g.6 17h.0 17k.1 18r.4 19c.e 19m.0 19n.e 19o.b ",
     "19p.0 19q.1 19s.4 19t.1 1ck.0 1cl.1 1cm.4 1ct.6 1cu.0 1cv.4 1d1.1 1d3.4 1d5.0 1d6.4 1da.1 1dc.e ",
     "1dm.1 1dp.0 1dr.1 1ds.0 1e7.6 1e8.1 1e9.4 1ea.1 1f4.4 1fv.0 1fx.1 1ie.4 1ip.1 1iq.0 1j4.e 1je.1 ",
     "1kb.4 1kk.1 1km.0 1ko.b 1kp.0 1kq.1 1kr.0 1kt.4 1ku.0 1kw.1 1li.4 1lm.1 1ln.4 1lw.1 1lx.4 1m0.1 ",
     "1m1.4 1m6.0 1mo.1 1nd.4 1ng.0 1nk.1 1nv.0 1o0.1 1oo.0 1op.1 1ov.0 1ow.6 1oy.0 1p4.4 1pc.1 1qi.4 ",
     "1r6.6 1r7.4 1s4.1 1tm.4 1tp.1 1tq.4 1u8.1 1u9.4 1ug.1 1uq.4 1us.0 1uu.e 1v4.0 1v5.1 1vl.4 1vo.0 ",
     "1vp.1 1vx.0 1vz.1 1w1.0 1w3.1 1wp.0 1wq.1 1wx.0 1wy.1 1wz.0 1x2.1 1x6.0 1x8.4 1x9.1 1xa.4 1xh.0 ",
     "1xj.4 1xl.0 1xn.4 1xq.1 1xr.0 1xz.4 1y0.0 1y4.1 1y6.0 1y7.1 1ya.4 1yc.0 1ye.e 1yo.1 1yq.0 1z0.1 ",
     "1z1.0 1z2.4 1z3.0 1z5.4 1z8.0 1z9.1 1zf.0 1zj.1 1zl.0 1zn.1 209.0 20a.1 20h.0 20i.1 20k.0 20l.1 ",
     "20n.0 20o.1 20q.0 20s.4 20t.0 20u.4 20z.0 213.4 215.0 217.4 21a.0 21d.4 21e.0 21l.1 21p.0 21q.1 ",
     "21r.0 21y.e 228.4 22a.1 22d.4 22e.0 22p.4 22s.0 22t.1 232.0 233.1 236.0 237.1 23t.0 23u.1 241.0 ",
     "242.1 244.0 245.1 24a.0 24c.4 24d.1 24e.4 24m.0 24n.4 24q.0 24r.4 24u.0 24w.1 24x.0 25c.1 25e.4 ",
     "25g.0 25i.e 25s.0 261.1 262.4 268.0 269.4 26c.0 26d.1 26l.0 26n.1 26p.0 26r.1 27d.0 27e.1 27l.0 ",
     "27m.1 27o.0 27p.1 27u.0 27w.4 27x.1 27y.4 285.0 287.4 289.0 28b.4 28e.0 28l.4 28o.0 28s.1 28u.0 ",
     "28v.1 28y.4 290.0 292.e 29c.0 29d.1 29e.0 29u.4 29v.1 29w.0 29x.1 2a3.0 2a6.1 2a9.0 2aa.1 2ae.0 ",
     "2ah.1 2aj.0 2ak.1 2al.0 2am.1 2ao.0 2ar.1 2at.0 2aw.1 2az.0 2b2.1 2be.0 2bi.4 2bn.0 2bq.4 2bt.0 ",
     "2bu.4 2by.0 2c0.1 2c1.0 2c7.4 2c8.0 2cm.e 2cw.0 2dc.4 2dh.1 2dp.0 2dq.1 2dt.0 2du.1 2eh.0 2ei.1 ",
     "2ey.0 2f0.4 2f1.1 2f2.4 2f9.0 2fa.4 2fd.0 2fe.4 2fi.0 2fp.4 2fr.0 2fs.1 2fv.0 2fx.1 2fy.0 2g0.1 ",
     "2g2.4 2g4.0 2g6.e 2gg.0 2gw.1 2gx.4 2h0.0 2h1.1 2h9.0 2ha.1 2hd.0 2he.1 2i1.0 2i2.1 2ic.0 2id.1 ",
     "2ii.0 2ik.4 2il.1 2im.4 2it.0 2iu.4 2ix.0 2iy.4 2j2.0 2j9.4 2jb.0 2jh.1 2jj.0 2jk.1 2jm.4 2jo.0 ",
     "2jq.e 2k0.0 2k1.1 2k3.4 2k4.0 2kg.4 2kk.1 2kt.0 2ku.1 2kx.0 2ky.1 2m3.4 2m5.1 2m6.4 2md.0 2me.4 ",
     "2mh.0 2mi.4 2mm.1 2mn.0 2ms.1 2mv.4 2mw.0 2n3.1 2n6.4 2n8.0 2na.e 2nk.0 2nu.1 2o0.0 2o1.4 2o4.0 ",
     "2o5.1 2on.0 2oq.1 2pe.0 2pf.1 2po.0 2pp.1 2pq.0 2ps.1 2pz.0 2q2.4 2q3.0 2q7.4 2qd.0 2qe.4 2qf.0 ",
     "2qg.4 2qo.0 2qu.e 2r4.0 2r6.4 2r8.0 2sx.4 2sy.0 2t0.4 2t7.0 2tj.4 2tr.0 2ts.e 2u2.0 2wh.4 2wi.0 ",
     "2wk.4 2wt.0 2x4.4 2xb.0 2xc.e 2xm.0 2yo.1 2yp.0 2zc.4 2ze.0 2zk.e 2zu.0 305.4 306.0 307.4 308.0 ",
     "309.4 30a.0 30e.4 30g.1 30o.0 30p.1 31p.0 31t.4 32d.0 32e.4 32g.1 32l.4 32w.0 32x.4 33x.0 346.4 ",
     "347.0 36z.4 37j.0 37k.e 37u.0 386.4 38a.0 38e.4 38h.0 38i.4 38l.0 38n.4 38u.0 38x.4 391.0 39e.4 ",
     "39q.0 39r.4 39s.e 3a2.4 3a6.0 3a8.1 3ba.0 3bb.1 3bc.0 3bh.1 3bi.0 3bk.1 3cr.0 3cs.1 3m1.0 3m2.1 ",
     "3m6.0 3m8.1 3mf.0 3mg.1 3mh.0 3mi.1 3mm.0 3mo.1 3nt.0 3nu.1 3ny.0 3o0.1 3ox.0 3oy.1 3p2.0 3p4.1 ",
     "3pb.0 3pc.1 3pd.0 3pe.1 3pi.0 3pk.1 3pz.0 3q0.1 3rl.0 3rm.1 3rq.0 3rs.1 3tn.0 3tp.4 3ts.0 3uo.1 ",
     "3v4.0 3vk.1 3xy.0 3y0.1 3y6.0 3y9.1 4fh.0 4fj.1 4g0.h 4g1.1 4gr.0 4gw.1 4iz.0 4j2.1 4jd.0 4jk.1 ",
     "4k2.4 4k6.0 4kf.1 4ky.4 4l1.0 4lc.1 4lu.4 4lw.0 4m8.1 4ml.0 4mm.1 4mp.0 4mq.4 4ms.0 4ok.4 4pg.0 ",
     "4pp.4 4pq.0 4ps.e 4q2.0 4qz.4 4r2.6 4r3.4 4r4.e 4re.0 4rk.1 4u1.0 4u8.1 4ud.4 4uf.1 4vd.4 4ve.1 ",
     "4vf.0 4vk.1 4xi.0 4xs.1 4yn.0 4yo.4 4z0.0 4z4.4 4zg.0 4zq.e 500.0 53k.e 53u.0 54w.1 55j.4 55o.0 ",
     "579.4 57j.0 57k.4 58d.0 58f.4 58g.e 58q.0 58w.e 596.0 59s.4 5an.0 5c0.4 5c5.1 5dg.4 5dx.1 5e5.0 ",
     "5e8.e 5ei.0 5ez.4 5f8.0 5fk.4 5fn.1 5gh.4 5gu.1 5gw.e 5h6.1 5ie.4 5is.0 5j4.1 5k4.4 5ko.0 5kw.e ",
     "5l6.0 5l9.1 5lc.e 5lm.1 5mm.0 5mo.1 5mx.0 5n4.1 5ob.0 5od.1 5og.0 5ow.4 5oz.0 5p0.4 5pl.1 5pp.4 ",
     "5pq.1 5pw.4 5px.1 5pz.4 5q2.1 5q3.0 5q8.1 5vk.4 5xc.1 652.0 654.1 65a.0 65c.1 66e.0 66g.1 66m.0 ",
     "66o.1 66w.0 66x.1 66y.0 66z.1 670.0 671.1 672.0 673.1 67y.0 680.1 69h.0 69i.1 69p.0 69q.1 69r.0 ",
     "69u.1 69x.0 69y.1 6a5.0 6a8.1 6ac.0 6ae.1 6ak.0 6ao.1 6b1.0 6b6.1 6b9.0 6ba.1 6bh.0 6bk.h 6br.0 ",
     "6bs.h 6bv.0 6bw.4 6bx.i 6by.6 6c0.0 6c8.c 6ca.0 6ck.c 6cl.0 6cn.a 6co.d 6cq.6 6cv.5 6cw.0 6db.5 ",
     "6dd.0 6dg.b 6dh.0 6dw.5 6dx.0 6e7.h 6e8.6 6ed.0 6ee.6 6eo.0 6ep.1 6eq.0 6f3.1 6f4.0 6fk.1 6fx.0 ",
     "6hc.4 6i9.0 6iq.1 6ir.0 6iv.1 6iw.0 6iy.1 6j8.0 6j9.1 6ja.0 6jd.1 6ji.0 6jo.1 6jp.0 6jq.1 6jr.0 ",
     "6js.1 6jt.0 6ju.1 6jy.0 6jz.1 6ka.0 6kc.1 6kg.0 6kl.1 6kq.0 6ku.1 6kv.0 6lc.1 6mh.0 792.1 7ai.0 ",
     "8ow.1 8v9.0 8vf.1 8vj.4 8vm.1 8vo.0 8w0.1 8x2.0 8x3.1 8x4.0 8x9.1 8xa.0 8xc.1 8yw.0 8z3.1 8z4.0 ",
     "8zj.4 8zk.1 907.0 90g.1 90n.0 90o.1 90v.0 90w.1 913.0 914.1 91b.0 91c.1 91j.0 91k.1 91r.0 91s.1 ",
     "91z.0 920.1 927.0 928.4 934.0 94f.1 94g.0 9hc.h 9hd.0 9hh.1 9hi.0 9ii.4 9io.0 9ip.8 9iu.0 9iz.1 ",
     "9j1.0 9ll.4 9ln.8 9lp.0 9ls.8 9ob.0 9oc.8 9og.0 9ol.1 9ps.0 9pt.1 9sf.0 9sw.1 9ts.0 9v4.8 9vk.0 ",
     "a1c.8 a2n.0 a2o.8 a54.0 vls.1 wi5.0 wk0.1 wla.0 wlc.1 wst.0 wsw.1 wtc.e wtm.1 wto.0 wu8.1 wvj.4 ",
     "wvn.0 wvo.4 wvy.0 wvz.1 wwu.4 www.1 wz4.4 wz6.0 wzs.1 x57.0 x5c.1 x5e.0 x5f.1 x5g.0 x5h.1 x5m.0 ",
     "x6a.1 x6q.4 x6r.1 x6u.4 x6v.1 x6z.4 x70.1 x7n.4 x7s.0 x7w.4 x7x.0 x8g.1 x9w.0 xa8.4 xaa.1 xbo.4 ",
     "xc6.0 xcg.e xcq.0 xcw.4 xde.1 xdk.0 xdn.1 xdo.0 xdp.1 xdr.4 xds.e xe2.1 xeu.4 xf2.0 xf4.1 xfr.4 ",
     "xg4.0 xgg.1 xh9.0 xhc.4 xhg.1 xir.4 xj5.0 xjj.1 xjk.e xju.0 xk5.4 xk6.0 xkg.e xkq.0 xkw.1 xm1.4 ",
     "xmf.0 xmo.1 xmr.4 xms.1 xn0.4 xn2.0 xn4.e xne.0 xob.4 xoe.0 xps.4 xpt.0 xpu.4 xpx.0 xpz.4 xq1.0 ",
     "xq6.4 xq8.0 xq9.4 xqa.0 xr4.1 xrf.4 xrk.0 xrm.1 xrp.4 xrr.0 xs1.1 xs7.0 xs9.1 xsf.0 xsh.1 xsn.0 ",
     "xsw.1 xt3.0 xt4.1 xtb.0 xtc.1 xuy.0 xv4.1 xyb.4 xyj.0 xyk.4 xym.0 xyo.e xyy.0 xz4.1 16lg.0 ",
     "16ls.1 16mf.0 16mj.1 16nw.0 1dkw.1 1dl3.0 1dlf.1 1dlk.0 1dlp.7 1dlq.4 1dlr.7 1dm1.0 1dm2.7 ",
     "1dmf.0 1dmg.7 1dml.0 1dmm.7 1dmn.0 1dmo.7 1dmq.0 1dmr.7 1dmt.0 1dmu.7 1dn4.1 1dpu.0 1dqr.1 ",
     "1e0u.0 1e1c.1 1e34.0 1e36.1 1e4o.0 1e5s.1 1e64.0 1e68.4 1e6o.b 1e6p.0 1e6r.a 1e6s.b 1e6t.0 ",
     "1e74.4 1e7k.0 1e7n.5 1e7p.0 1e8d.5 1e8g.b 1e8h.0 1e8i.c 1e8j.0 1e8k.b 1e8l.a 1e8m.0 1e9c.1 ",
     "1e9h.0 1e9i.1 1ed9.0 1edb.6 1edc.0 1edj.c 1edk.0 1edo.b 1edp.0 1edq.c 1edr.0 1eds.e 1ee2.a ",
     "1ee3.b 1ee4.0 1ee9.1 1eez.0 1ef3.5 1ef4.0 1ef5.1 1efv.0 1eg6.8 1ehq.4 1ehs.1 1ein.0 1eiq.1 ",
     "1eiw.0 1eiy.1 1ej4.0 1ej6.1 1ejc.0 1eje.1 1ejh.0 1ek9.6 1ekc.0 1ekg.1 1eks.0 1ekt.1 1elj.0 ",
     "1elk.1 1em3.0 1em4.1 1em6.0 1em7.1 1emm.0 1emo.1 1en2.0 1eo0.1 1erf.0 1etc.1 1eut.0 1eyl.4 ",
     "1eym.0 1f28.1 1f31.0 1f34.1 1f4h.0 1f4w.4 1f4x.0 1f5s.1 1f6o.0 1f71.1 1f7v.0 1f80.1 1f92.4 ",
     "1f97.0 1f9c.1 1fa6.0 1fa8.1 1fb8.0 1fbc.1 1fbk.0 1fbl.1 1fbq.0 1fcw.1 1fha.0 1fhc.e 1fhm.0 ",
     "1fhs.1 1fis.0 1fiw.1 1fjw.0 1fk0.1 1fl4.0 1flc.1 1fms.0 1fn4.1 1fnf.0 1fng.1 1fnv.0 1fnw.1 ",
     "1fo3.0 1fo4.1 1fo6.0 1fo7.1 1foi.0 1foj.1 1foy.0 1foz.1 1fp6.0 1fp7.1 1fp9.0 1fr4.1 1fzr.0 ",
     "1g00.1 1g0m.0 1g0w.1 1g14.0 1g1s.1 1g1y.0 1g1z.1 1g35.0 1g36.1 1g3f.0 1g5c.1 1g5i.0 1g5k.1 ",
     "1g5l.0 1g5m.1 1g6u.0 1g6v.1 1g6x.0 1g70.1 1g71.0 1g73.1 1g7q.0 1g80.1 1g8n.0 1g8w.1 1g9r.0 ",
     "1gbk.1 1gc3.0 1gc4.1 1gc6.0 1gcg.1 1gd2.0 1gdc.1 1ge2.0 1gg0.1 1ghk.0 1ghq.1 1ghs.0 1gjk.1 ",
     "1gjl.4 1gjo.0 1gjp.4 1gjr.0 1gjw.4 1gk0.1 1gk4.0 1gk5.1 1gk8.0 1gk9.1 1gl2.0 1gl4.4 1gl7.0 ",
     "1glb.4 1glc.0 1gm8.1 1gn1.0 1gn4.1 1gnx.0 1gow.1 1gp4.0 1gp5.1 1gpx.4 1gpz.0 1gqo.1 1gs6.0 ",
     "1gsg.1 1gt2.0 1gtc.1 1gtv.0 1gu8.1 1guq.0 1gxs.1 1gzt.0 1h1c.1 1h2r.0 1h34.1 1h4j.0 1h4w.1 ",
     "1h5w.4 1h60.0 1h68.e 1h6i.0 1hfk.1 1hgq.0 1hgr.4 1hgt.0 1hgw.1 1hgy.0 1hj1.4 1hj4.1 1hjx.0 ",
     "1hk7.1 1hk8.0 1hkg.1 1hl2.4 1hld.0 1hm8.1 1hmq.4 1hmu.0 1ho0.1 1hol.0 1hpc.1 1hpz.0 1hq8.4 ",
     "1hqb.1 1hrs.4 1hs7.0 1ht2.e 1htc.4 1htd.1 1htf.4 1hth.1 1hti.0 1htr.4 1htv.1 1hv4.4 1hvf.0 ",
     "1hvh.6 1hvi.0 1hvm.4 1hvn.0 1hvx.6 1hvy.0 1hw0.1 1hwp.0 1hww.e 1hx6.0 1hxc.4 1hxf.1 1hyf.4 ",
     "1hyt.0 1hyu.e 1hz4.0 1hz8.1 1hz9.4 1hzb.1 1hzc.0 1hzk.1 1i0j.4 1i0k.0 1i0m.1 1i0n.0 1i0w.4 ",
     "1i0z.1 1i2b.4 1i2p.1 1i2t.0 1i2x.4 1i31.0 1i32.4 1i34.e 1i3e.1 1i3f.0 1i3g.1 1i3h.0 1i4g.1 ",
     "1i4y.0 1i4z.1 1i5o.4 1i60.0 1i66.4 1i67.1 1i69.4 1i6a.0 1i80.1 1i87.0 1i88.1 1i89.0 1i8a.1 ",
     "1i8e.0 1i8f.1 1i8u.0 1i8v.1 1i95.0 1i9c.1 1ian.4 1iaz.0 1ib4.e 1ibe.0 1ibk.4 1ibo.0 1ibp.1 ",
     "1ibx.0 1ibz.1 1ic1.0 1ic3.1 1icp.0 1icq.1 1icx.0 1icy.1 1id0.0 1id1.1 1id6.0 1id7.4 1id9.1 ",
     "1ida.4 1idh.0 1idj.4 1idl.0 1idn.4 1idq.0 1ids.1 1idt.0 1idz.4 1ie0.0 1ie5.1 1iea.4 1iec.0 ",
     "1iee.4 1iel.0 1ieo.4 1iet.0 1iio.1 1ik5.4 1ikn.1 1ikr.0 1ikw.e 1il6.0 1ila.4 1ilb.1 1ile.0 ",
     "1im8.1 1ink.4 1io4.1 1io6.0 1io7.1 1io8.0 1iog.e 1ioq.0 1itc.1 1iun.4 1iuu.0 1iuw.4 1iv5.0 ",
     "1ivs.1 1ivw.4 1ivy.0 1iww.1 1iy8.4 1iyp.0 1iys.1 1iyt.0 1iz4.e 1ize.0 1j0g.1 1j1n.4 1j20.1 ",
     "1j21.0 1j28.e 1j2i.0 1j4t.4 1j58.0 1j5c.e 1j5m.0 1jb4.1 1jcc.4 1jcr.0 1jfk.1 1jhc.e 1jhm.0 ",
     "1ji7.1 1jif.0 1jih.1 1jii.0 1jik.1 1jis.0 1jit.1 1jiv.0 1jiw.1 1jjk.4 1jjq.0 1jjr.4 1jjt.0 ",
     "1jjv.4 1jjz.1 1jk0.4 1jk1.1 1jk2.4 1jk4.0 1jkg.e 1jkq.0 1jmo.1 1jmw.0 1jmy.1 1jo1.4 1jo8.0 ",
     "1joa.4 1joh.1 1joi.0 1joj.1 1jok.4 1jol.0 1jpc.1 1jpd.4 1jpn.1 1jqr.4 1jqy.1 1jqz.4 1jr3.0 ",
     "1jrb.4 1jrc.0 1jrk.1 1jrl.4 1jrw.1 1jt6.4 1jtm.0 1jtp.1 1jtq.0 1ju8.1 1jw9.0 1k3k.1 1k3t.0 ",
     "1k3u.1 1k4v.4 1k53.0 1k54.4 1k5c.1 1k5d.0 1k5s.e 1k62.0 1k6q.1 1k7k.0 1k7m.4 1k88.0 1k89.4 ",
     "1k8n.0 1kao.1 1kav.0 1kaw.1 1kay.0 1kaz.1 1kc1.4 1kc7.0 1kca.4 1kcb.0 1kcc.4 1kce.0 1kcf.4 ",
     "1kcm.1 1kcn.4 1kco.0 1kcw.e 1kd6.0 1kdc.1 1kdi.0 1kdj.1 1kdl.0 1kdm.1 1kei.4 1ken.0 1keo.4 ",
     "1keq.0 1ker.4 1kew.1 1kex.0 1kf4.e 1kfe.0 1ko0.1 1koj.4 1kon.0 1kow.4 1koy.1 1koz.4 1kp0.1 ",
     "1kpd.0 1kpe.1 1kqc.4 1kqj.0 1kqm.4 1kqr.0 1kr4.e 1kre.0 1kts.1 1ktt.0 1kw0.1 1llm.0 1log.1 ",
     "1lrj.0 1ls0.1 1lxg.0 1nyo.1 1o1d.0 1o1s.1 1ovk.6 1ow0.4 1ow1.1 1ow7.4 1owm.0 1s00.1 1sg7.0 ",
     "1z40.1 1zjt.0 1zk0.1 1zkv.0 1zkw.e 1zl6.0 1zlc.1 1znj.0 1znk.e 1znu.0 1zo0.1 1zou.0 1zow.4 ",
     "1zp1.0 1zpc.1 1zqo.4 1zqv.0 1zr4.1 1zr8.0 1zrk.e 1zru.0 1zs3.1 1zso.0 1zst.1 1ztc.0 20cg.1 ",
     "20e8.0 20hs.1 20jv.0 20jz.4 20k0.1 20k1.4 20lk.0 20lr.4 20lv.1 20m8.0 20o0.1 20o2.0 20o3.1 ",
     "20o4.4 20o5.0 20og.4 20oi.0 2dbk.8 2dbo.0 2dbp.8 2dbw.0 2dbx.8 2dbz.0 2dc0.8 2dc1.0 2dk0.8 ",
     "2dk3.0 2dlh.8 2dli.0 2dlw.8 2dm0.0 2fpc.1 2fsb.0 2fsg.1 2fst.0 2fsw.1 2ft5.0 2ftc.1 2ftm.0 ",
     "2ftp.4 2ftr.0 2fts.6 2ftw.0 2jgg.4 2jhq.0 2jhs.4 2jif.0 2jxh.4 2jxm.0 2jxp.4 2jxv.6 2jy3.4 ",
     "2jyb.0 2jyd.4 2jyk.0 2jze.4 2jzi.0 2k3m.4 2k3p.0 2kg0.1 2kid.0 2kie.1 2kkd.0 2kke.1 2kkg.0 ",
     "2kki.1 2kkj.0 2kkl.1 2kkn.0 2kkp.1 2kkt.0 2kku.1 2kl6.0 2kl7.1 2kl8.0 2kl9.1 2klg.0 2klh.1 ",
     "2kna.0 2knb.1 2knf.0 2knh.1 2knp.0 2knq.1 2knx.0 2kny.1 2koq.0 2kor.1 2kov.0 2kow.1 2kp1.0 ",
     "2kp2.1 2kp3.0 2kp6.1 2kpd.0 2kpe.1 2kyu.0 2kyw.1 2kzl.0 2kzm.1 2l0b.0 2l0c.1 2l17.0 2l18.1 ",
     "2l1x.0 2l1y.1 2l2t.0 2l2u.1 2l3j.0 2l3k.1 2l4f.0 2l4g.1 2l55.0 2l56.1 2l61.0 2l62.1 2l6r.0 ",
     "2l6s.1 2l70.0 2l72.e 2l8g.0 2lmo.4 2lo7.0 2lob.4 2lpp.0 2lpx.4 2lpy.0 2lqc.4 2lqd.0 2lqz.4 ",
     "2lr4.0 2lr5.4 2lrk.0 2mm8.1 2mn3.0 2mn9.1 2mnf.0 2mtc.4 2mtj.0 2mtk.4 2mu1.0 2mu3.4 2mua.0 ",
     "2mub.4 2mud.0 2mue.4 2muj.0 2muo.1 2mwe.0 2mxb.4 2mxc.0 2n0g.1 2n1p.0 2n1s.4 2n1z.1 2n26.0 ",
     "2n28.e 2n2i.0 2n2m.1 2n2n.0 2nbk.1 2nce.4 2ncf.0 2ncw.1 2ne4.4 2ne8.e 2nei.0 2nrk.1 2nsc.4 ",
     "2nsg.e 2nsq.0 2odc.1 2odj.0 2odk.1 2odo.0 2odp.1 2odr.0 2ods.1 2oe7.0 2oe8.1 2ojp.0 2ok0.4 ",
     "2ok7.0 2olc.1 2on8.4 2onf.1 2ong.0 2onk.e 2onu.0 2pkw.1 2pl0.0 2pl1.1 2pls.0 2plt.1 2plv.0 ",
     "2plw.1 2plx.0 2plz.1 2pm0.0 2pm1.1 2pmb.0 2pmc.1 2pmg.0 2pmh.1 2pmi.0 2pmj.1 2pmk.0 2pmq.1 ",
     "2pmr.0 2pmv.1 2pmw.0 2pmx.1 2pmy.0 2pmz.1 2pn0.0 2pn1.1 2pn4.0 2pn5.1 2pn7.0 2pn8.1 2pn9.0 ",
     "2pnb.1 2pnc.0 2pnd.1 2pne.0 2pnf.1 2png.0 2pnh.1 2pni.0 2pnj.1 2pnk.0 2pnl.1 2pnn.0 2pno.1 ",
     "2pnp.0 2pnr.1 2pnv.0 2pnw.1 2po3.0 2po4.1 2po8.0 2po9.1 2pod.0 2poe.1 2pof.0 2pog.1 2poq.0 ",
     "2por.1 2pp8.0 2ppd.1 2ppg.0 2pph.1 2ppm.0 2ppn.1 2pq4.0 2q7k.1 2q8a.0 2q8g.1 2q96.0 2q9c.1 ",
     "2qa2.0 2qcm.f 2qdc.0 2qrf.4 2qrk.0 2sc0.e 2sca.0 jny9.6 jnya.0 jnz4.4 jo1s.0 jo5c.4 joc0.0"]

def wordBreakRuns : Array (Nat × Nat) := readRuns wordBreakTable

/-- Each loose alias of a word break value other than `Other`, with the value's number. -/
def wordBreakAliases : List (String × Nat) :=
  [("aletter", 1), ("cr", 2), ("doublequote", 3), ("dq", 3), ("ex", 5), ("extend", 4), ("extendnumlet", 5), ("fo", 6), ("format", 6), ("hebrewletter", 7), ("hl", 7), ("ka", 8), ("katakana", 8), ("le", 1), ("lf", 9), ("mb", 12), ("midletter", 10), ("midnum", 11), ("midnumlet", 12), ("ml", 10), ("mn", 11), ("newline", 13), ("nl", 13), ("nu", 14), ("numeric", 14), ("regionalindicator", 15), ("ri", 15), ("singlequote", 16), ("sq", 16), ("wseg", 17), ("wsegspace", 17), ("zwj", 18)]

/-- The sentence break values, in the order the table numbers them. -/
def sentenceBreakValues : Array String :=
  #["Other", "ATerm", "CR", "Close", "Extend", "Format", "LF", "Lower", "Numeric", "OLetter", "SContinue", "STerm", "Sep", "Sp", "Upper"]

/-- Where each run of one sentence break value starts, with the value's number. -/
def sentenceBreakTable : String :=
  String.join
    ["0.0 9.d a.6 b.d d.2 e.0 w.d x.b y.3 z.0 13.3 16.0 18.a 1a.1 1b.0 1c.8 1m.a 1n.0 1r.b 1s.0 1t.e ",
     "2j.3 2k.0 2l.3 2m.0 2p.7 3f.3 3g.0 3h.3 3i.0 3p.c 3q.0 4g.d 4h.0 4q.7 4r.3 4s.0 4t.5 4u.0 51.7 ",
     "52.0 56.7 57.3 58.0 5c.e 5z.0 60.e 67.7 6v.0 6w.7 74.e 75.7 76.e 77.7 78.e 79.7 7a.e 7b.7 7c.e ",
     "7d.7 7e.e 7f.7 7g.e 7h.7 7i.e 7j.7 7k.e 7l.7 7m.e 7n.7 7o.e 7p.7 7q.e 7r.7 7s.e 7t.7 7u.e 7v.7 ",
     "7w.e 7x.7 7y.e 7z.7 80.e 81.7 82.e 83.7 84.e 85.7 86.e 87.7 88.e 89.7 8a.e 8b.7 8c.e 8d.7 8e.e ",
     "8f.7 8g.e 8h.7 8i.e 8j.7 8k.e 8l.7 8m.e 8n.7 8p.e 8q.7 8r.e 8s.7 8t.e 8u.7 8v.e 8w.7 8x.e 8y.7 ",
     "8z.e 90.7 91.e 92.7 93.e 94.7 96.e 97.7 98.e 99.7 9a.e 9b.7 9c.e 9d.7 9e.e 9f.7 9g.e 9h.7 9i.e ",
     "9j.7 9k.e 9l.7 9m.e 9n.7 9o.e 9p.7 9q.e 9r.7 9s.e 9t.7 9u.e 9v.7 9w.e 9x.7 9y.e 9z.7 a0.e a1.7 ",
     "a2.e a3.7 a4.e a5.7 a6.e a7.7 a8.e a9.7 aa.e ab.7 ac.e ad.7 ae.e af.7 ag.e ai.7 aj.e ak.7 al.e ",
     "am.7 ap.e ar.7 as.e at.7 au.e aw.7 ax.e b0.7 b2.e b6.7 b7.e b9.7 ba.e bd.7 bg.e bi.7 bj.e bl.7 ",
     "bm.e bn.7 bo.e bp.7 bq.e bs.7 bt.e bu.7 bw.e bx.7 by.e c0.7 c1.e c4.7 c5.e c6.7 c7.e c9.7 cb.9 ",
     "cc.e cd.7 cg.9 ck.e cm.7 cn.e cp.7 cq.e cs.7 ct.e cu.7 cv.e cw.7 cx.e cy.7 cz.e d0.7 d1.e d2.7 ",
     "d3.e d4.7 d5.e d6.7 d7.e d8.7 da.e db.7 dc.e dd.7 de.e df.7 dg.e dh.7 di.e dj.7 dk.e dl.7 dm.e ",
     "dn.7 do.e dp.7 dq.e dr.7 dt.e dv.7 dw.e dx.7 dy.e e1.7 e2.e e3.7 e4.e e5.7 e6.e e7.7 e8.e e9.7 ",
     "ea.e eb.7 ec.e ed.7 ee.e ef.7 eg.e eh.7 ei.e ej.7 ek.e el.7 em.e en.7 eo.e ep.7 eq.e er.7 es.e ",
     "et.7 eu.e ev.7 ew.e ex.7 ey.e ez.7 f0.e f1.7 f2.e f3.7 f4.e f5.7 f6.e f7.7 f8.e f9.7 fa.e fb.7 ",
     "fc.e fd.7 fe.e ff.7 fg.e fh.7 fi.e fj.7 fk.e fl.7 fm.e fn.7 fu.e fw.7 fx.e fz.7 g1.e g2.7 g3.e ",
     "g7.7 g8.e g9.7 ga.e gb.7 gc.e gd.7 ge.e gf.7 ic.9 id.7 jd.9 jk.7 jm.0 jq.9 k2.0 kg.7 kl.0 ks.9 ",
     "kt.0 ku.9 kv.0 lc.4 og.e oh.7 oi.e oj.7 ok.9 ol.0 om.e on.7 oo.0 oq.7 ou.0 ov.e ow.0 p2.e p3.0 ",
     "p4.e p7.0 p8.e p9.0 pa.e pc.7 pd.e pu.0 pv.e q4.7 r3.e r4.7 r6.e r9.7 rc.e rd.7 re.e rf.7 rg.e ",
     "rh.7 ri.e rj.7 rk.e rl.7 rm.e rn.7 ro.e rp.7 rq.e rr.7 rs.e rt.7 ru.e rv.7 rw.e rx.7 ry.e rz.7 ",
     "s4.e s5.7 s6.0 s7.e s8.7 s9.e sb.7 sd.e ts.7 v4.e v5.7 v6.e v7.7 v8.e v9.7 va.e vb.7 vc.e vd.7 ",
     "ve.e vf.7 vg.e vh.7 vi.e vj.7 vk.e vl.7 vm.e vn.7 vo.e vp.7 vq.e vr.7 vs.e vt.7 vu.e vv.7 vw.e ",
     "vx.7 vy.e vz.7 w0.e w1.7 w2.0 w3.4 wa.e wb.7 wc.e wd.7 we.e wf.7 wg.e wh.7 wi.e wj.7 wk.e wl.7 ",
     "wm.e wn.7 wo.e wp.7 wq.e wr.7 ws.e wt.7 wu.e wv.7 ww.e wx.7 wy.e wz.7 x0.e x1.7 x2.e x3.7 x4.e ",
     "x5.7 x6.e x7.7 x8.e x9.7 xa.e xb.7 xc.e xd.7 xe.e xf.7 xg.e xh.7 xi.e xj.7 xk.e xl.7 xm.e xn.7 ",
     "xo.e xp.7 xq.e xr.7 xs.e xu.7 xv.e xw.7 xx.e xy.7 xz.e y0.7 y1.e y2.7 y3.e y4.7 y5.e y6.7 y8.e ",
     "y9.7 ya.e yb.7 yc.e yd.7 ye.e yf.7 yg.e yh.7 yi.e yj.7 yk.e yl.7 ym.e yn.7 yo.e yp.7 yq.e yr.7 ",
     "ys.e yt.7 yu.e yv.7 yw.e yx.7 yy.e yz.7 z0.e z1.7 z2.e z3.7 z4.e z5.7 z6.e z7.7 z8.e z9.7 za.e ",
     "zb.7 zc.e zd.7 ze.e zf.7 zg.e zh.7 zi.e zj.7 zk.e zl.7 zm.e zn.7 zo.e zp.7 zq.e zr.7 zs.e zt.7 ",
     "zu.e zv.7 zw.e zx.7 zy.e zz.7 100.e 101.7 102.e 103.7 104.e 105.7 106.e 107.7 108.e 109.7 10a.e ",
     "10b.7 10c.e 10d.7 10e.e 10f.7 10g.e 10h.7 10i.e 10j.7 10k.e 10l.7 10m.e 10n.7 10o.e 10p.7 10q.e ",
     "10r.7 10s.e 10t.7 10u.e 10v.7 10w.0 10x.e 11z.0 121.9 122.0 125.a 126.0 128.7 13d.b 13e.0 13l.4 ",
     "14u.0 14v.4 14w.0 14x.4 14z.0 150.4 152.0 153.4 154.0 15c.9 163.0 167.9 16c.0 16o.5 16u.0 170.a ",
     "172.0 174.4 17f.0 17g.5 17h.b 17k.9 18r.4 19c.8 19m.0 19n.8 19p.0 19q.9 19s.4 19t.9 1ck.b 1cl.9 ",
     "1cm.4 1ct.5 1cu.0 1cv.4 1d1.9 1d3.4 1d5.0 1d6.4 1da.9 1dc.8 1dm.9 1dp.0 1dr.9 1ds.b 1dv.0 1e7.5 ",
     "1e8.9 1e9.4 1ea.9 1f4.4 1fv.0 1fx.9 1ie.4 1ip.9 1iq.0 1j4.8 1je.9 1kb.4 1kk.9 1km.0 1ko.a 1kp.b ",
     "1kq.9 1kr.0 1kt.4 1ku.0 1kw.9 1li.4 1lm.9 1ln.4 1lw.9 1lx.4 1m0.9 1m1.4 1m6.0 1mf.b 1mg.0 1mh.b ",
     "1mi.0 1ml.b 1mn.0 1mo.9 1nd.4 1ng.0 1nk.9 1nv.0 1o0.9 1oo.0 1op.9 1ov.0 1ow.5 1oy.0 1p4.4 1pc.9 ",
     "1qi.4 1r6.5 1r7.4 1s4.9 1tm.4 1tp.9 1tq.4 1u8.9 1u9.4 1ug.9 1uq.4 1us.b 1uu.8 1v4.0 1v5.9 1vl.4 ",
     "1vo.0 1vp.9 1vx.0 1vz.9 1w1.0 1w3.9 1wp.0 1wq.9 1wx.0 1wy.9 1wz.0 1x2.9 1x6.0 1x8.4 1x9.9 1xa.4 ",
     "1xh.0 1xj.4 1xl.0 1xn.4 1xq.9 1xr.0 1xz.4 1y0.0 1y4.9 1y6.0 1y7.9 1ya.4 1yc.0 1ye.8 1yo.9 1yq.0 ",
     "1z0.9 1z1.0 1z2.4 1z3.0 1z5.4 1z8.0 1z9.9 1zf.0 1zj.9 1zl.0 1zn.9 209.0 20a.9 20h.0 20i.9 20k.0 ",
     "20l.9 20n.0 20o.9 20q.0 20s.4 20t.0 20u.4 20z.0 213.4 215.0 217.4 21a.0 21d.4 21e.0 21l.9 21p.0 ",
     "21q.9 21r.0 21y.8 228.4 22a.9 22d.4 22e.0 22p.4 22s.0 22t.9 232.0 233.9 236.0 237.9 23t.0 23u.9 ",
     "241.0 242.9 244.0 245.9 24a.0 24c.4 24d.9 24e.4 24m.0 24n.4 24q.0 24r.4 24u.0 24w.9 24x.0 25c.9 ",
     "25e.4 25g.0 25i.8 25s.0 261.9 262.4 268.0 269.4 26c.0 26d.9 26l.0 26n.9 26p.0 26r.9 27d.0 27e.9 ",
     "27l.0 27m.9 27o.0 27p.9 27u.0 27w.4 27x.9 27y.4 285.0 287.4 289.0 28b.4 28e.0 28l.4 28o.0 28s.9 ",
     "28u.0 28v.9 28y.4 290.0 292.8 29c.0 29d.9 29e.0 29u.4 29v.9 29w.0 29x.9 2a3.0 2a6.9 2a9.0 2aa.9 ",
     "2ae.0 2ah.9 2aj.0 2ak.9 2al.0 2am.9 2ao.0 2ar.9 2at.0 2aw.9 2az.0 2b2.9 2be.0 2bi.4 2bn.0 2bq.4 ",
     "2bt.0 2bu.4 2by.0 2c0.9 2c1.0 2c7.4 2c8.0 2cm.8 2cw.0 2dc.4 2dh.9 2dp.0 2dq.9 2dt.0 2du.9 2eh.0 ",
     "2ei.9 2ey.0 2f0.4 2f1.9 2f2.4 2f9.0 2fa.4 2fd.0 2fe.4 2fi.0 2fp.4 2fr.0 2fs.9 2fv.0 2fx.9 2fy.0 ",
     "2g0.9 2g2.4 2g4.0 2g6.8 2gg.0 2gw.9 2gx.4 2h0.0 2h1.9 2h9.0 2ha.9 2hd.0 2he.9 2i1.0 2i2.9 2ic.0 ",
     "2id.9 2ii.0 2ik.4 2il.9 2im.4 2it.0 2iu.4 2ix.0 2iy.4 2j2.0 2j9.4 2jb.0 2jh.9 2jj.0 2jk.9 2jm.4 ",
     "2jo.0 2jq.8 2k0.0 2k1.9 2k3.4 2k4.0 2kg.4 2kk.9 2kt.0 2ku.9 2kx.0 2ky.9 2m3.4 2m5.9 2m6.4 2md.0 ",
     "2me.4 2mh.0 2mi.4 2mm.9 2mn.0 2ms.9 2mv.4 2mw.0 2n3.9 2n6.4 2n8.0 2na.8 2nk.0 2nu.9 2o0.0 2o1.4 ",
     "2o4.0 2o5.9 2on.0 2oq.9 2pe.0 2pf.9 2po.0 2pp.9 2pq.0 2ps.9 2pz.0 2q2.4 2q3.0 2q7.4 2qd.0 2qe.4 ",
     "2qf.0 2qg.4 2qo.0 2qu.8 2r4.0 2r6.4 2r8.0 2rl.9 2sx.4 2sy.9 2t0.4 2t7.0 2tc.9 2tj.4 2tr.0 2ts.8 ",
     "2u2.0 2v5.9 2v7.0 2v8.9 2v9.0 2va.9 2vf.0 2vg.9 2w4.0 2w5.9 2w6.0 2w7.9 2wh.4 2wi.9 2wk.4 2wt.9 ",
     "2wu.0 2ww.9 2x1.0 2x2.9 2x3.0 2x4.4 2xb.0 2xc.8 2xm.0 2xo.9 2xs.0 2yo.9 2yp.0 2zc.4 2ze.0 2zk.8 ",
     "2zu.0 305.4 306.0 307.4 308.0 309.4 30a.3 30e.4 30g.9 30o.0 30p.9 31p.0 31t.4 32d.0 32e.4 32g.9 ",
     "32l.4 32w.0 32x.4 33x.0 346.4 347.0 35s.9 36z.4 37j.9 37k.8 37u.b 37w.0 380.9 386.4 38a.9 38e.4 ",
     "38h.9 38i.4 38l.9 38n.4 38u.9 38x.4 391.9 39e.4 39q.9 39r.4 39s.8 3a2.4 3a6.0 3a8.e 3ba.0 3bb.e ",
     "3bc.0 3bh.e 3bi.0 3bk.9 3cr.0 3cs.7 3ct.9 3m1.0 3m2.9 3m6.0 3m8.9 3mf.0 3mg.9 3mh.0 3mi.9 3mm.0 ",
     "3mo.9 3nt.0 3nu.9 3ny.0 3o0.9 3ox.0 3oy.9 3p2.0 3p4.9 3pb.0 3pc.9 3pd.0 3pe.9 3pi.0 3pk.9 3pz.0 ",
     "3q0.9 3rl.0 3rm.9 3rq.0 3rs.9 3tn.0 3tp.4 3ts.0 3tu.b 3tv.0 3tz.b 3u1.0 3uo.9 3v4.0 3vk.e 3xy.0 ",
     "3y0.7 3y6.0 3y9.9 4fh.0 4fi.b 4fj.9 4g0.d 4g1.9 4gr.3 4gt.0 4gw.9 4iz.0 4j2.9 4jd.0 4jk.9 4k2.4 ",
     "4k6.0 4kf.9 4ky.4 4l1.b 4l3.0 4lc.9 4lu.4 4lw.0 4m8.9 4ml.0 4mm.9 4mp.0 4mq.4 4ms.0 4n4.9 4ok.4 ",
     "4pg.0 4pj.9 4pk.0 4po.9 4pp.4 4pq.0 4ps.8 4q2.0 4qq.a 4qr.b 4qs.0 4qw.a 4qx.b 4qy.0 4qz.4 4r2.5 ",
     "4r3.4 4r4.8 4re.0 4rk.9 4u1.0 4u8.9 4ud.4 4uf.9 4vd.4 4ve.9 4vf.0 4vk.9 4xi.0 4xs.9 4yn.0 4yo.4 ",
     "4z0.0 4z4.4 4zg.0 4zo.b 4zq.8 500.9 50u.0 50w.9 511.0 51c.9 52k.0 52o.9 53e.0 53k.8 53u.0 54w.9 ",
     "55j.4 55o.0 55s.9 579.4 57j.0 57k.4 58d.0 58f.4 58g.8 58q.0 58w.8 596.0 59j.9 59k.b 59o.0 59s.4 ",
     "5an.0 5c0.4 5c5.9 5dg.4 5dx.9 5e5.0 5e8.8 5ei.b 5ek.0 5em.b 5eo.0 5ez.4 5f8.0 5fh.b 5fj.0 5fk.4 ",
     "5fn.9 5gh.4 5gu.9 5gw.8 5h6.9 5ie.4 5is.0 5j4.9 5k4.4 5ko.0 5kr.b 5kt.0 5kw.8 5l6.0 5l9.9 5lc.8 ",
     "5lm.9 5mm.b 5mo.7 5mx.0 5n4.9 5ob.0 5od.9 5og.0 5ow.4 5oz.0 5p0.4 5pl.9 5pp.4 5pq.9 5pw.4 5px.9 ",
     "5pz.4 5q2.9 5q3.0 5q8.7 5vk.4 5xc.e 5xd.7 5xe.e 5xf.7 5xg.e 5xh.7 5xi.e 5xj.7 5xk.e 5xl.7 5xm.e ",
     "5xn.7 5xo.e 5xp.7 5xq.e 5xr.7 5xs.e 5xt.7 5xu.e 5xv.7 5xw.e 5xx.7 5xy.e 5xz.7 5y0.e 5y1.7 5y2.e ",
     "5y3.7 5y4.e 5y5.7 5y6.e 5y7.7 5y8.e 5y9.7 5ya.e 5yb.7 5yc.e 5yd.7 5ye.e 5yf.7 5yg.e 5yh.7 5yi.e ",
     "5yj.7 5yk.e 5yl.7 5ym.e 5yn.7 5yo.e 5yp.7 5yq.e 5yr.7 5ys.e 5yt.7 5yu.e 5yv.7 5yw.e 5yx.7 5yy.e ",
     "5yz.7 5z0.e 5z1.7 5z2.e 5z3.7 5z4.e 5z5.7 5z6.e 5z7.7 5z8.e 5z9.7 5za.e 5zb.7 5zc.e 5zd.7 5ze.e ",
     "5zf.7 5zg.e 5zh.7 5zi.e 5zj.7 5zk.e 5zl.7 5zm.e 5zn.7 5zo.e 5zp.7 5zq.e 5zr.7 5zs.e 5zt.7 5zu.e ",
     "5zv.7 5zw.e 5zx.7 5zy.e 5zz.7 600.e 601.7 602.e 603.7 604.e 605.7 606.e 607.7 608.e 609.7 60a.e ",
     "60b.7 60c.e 60d.7 60e.e 60f.7 60g.e 60h.7 60i.e 60j.7 60k.e 60l.7 60m.e 60n.7 60o.e 60p.7 60q.e ",
     "60r.7 60s.e 60t.7 60u.e 60v.7 60w.e 60x.7 60y.e 60z.7 610.e 611.7 612.e 613.7 614.e 615.7 616.e ",
     "617.7 618.e 619.7 61a.e 61b.7 61c.e 61d.7 61e.e 61f.7 61g.e 61h.7 61q.e 61r.7 61s.e 61t.7 61u.e ",
     "61v.7 61w.e 61x.7 61y.e 61z.7 620.e 621.7 622.e 623.7 624.e 625.7 626.e 627.7 628.e 629.7 62a.e ",
     "62b.7 62c.e 62d.7 62e.e 62f.7 62g.e 62h.7 62i.e 62j.7 62k.e 62l.7 62m.e 62n.7 62o.e 62p.7 62q.e ",
     "62r.7 62s.e 62t.7 62u.e 62v.7 62w.e 62x.7 62y.e 62z.7 630.e 631.7 632.e 633.7 634.e 635.7 636.e ",
     "637.7 638.e 639.7 63a.e 63b.7 63c.e 63d.7 63e.e 63f.7 63g.e 63h.7 63i.e 63j.7 63k.e 63l.7 63m.e ",
     "63n.7 63o.e 63p.7 63q.e 63r.7 63s.e 63t.7 63u.e 63v.7 63w.e 63x.7 63y.e 63z.7 640.e 641.7 642.e ",
     "643.7 644.e 645.7 646.e 647.7 648.e 649.7 64a.e 64b.7 64c.e 64d.7 64e.e 64f.7 64o.e 64w.7 652.0 ",
     "654.e 65a.0 65c.7 65k.e 65s.7 660.e 668.7 66e.0 66g.e 66m.0 66o.7 66w.0 66x.e 66y.0 66z.e 670.0 ",
     "671.e 672.0 673.e 674.7 67c.e 67k.7 67y.0 680.7 688.e 68g.7 68o.e 68w.7 694.e 69c.7 69h.0 69i.7 ",
     "69k.e 69p.0 69q.7 69r.0 69u.7 69x.0 69y.7 6a0.e 6a5.0 6a8.7 6ac.0 6ae.7 6ag.e 6ak.0 6ao.7 6aw.e ",
     "6b1.0 6b6.7 6b9.0 6ba.7 6bc.e 6bh.0 6bk.d 6bv.5 6bw.4 6by.5 6c0.0 6c3.a 6c5.0 6c8.3 6cg.0 6ck.1 ",
     "6cl.0 6co.c 6cq.5 6cv.d 6cw.0 6d5.3 6d7.0 6d8.b 6da.0 6dh.3 6dj.b 6dm.0 6e7.d 6e8.5 6ed.0 6ee.5 ",
     "6eo.0 6ep.7 6eq.0 6f1.3 6f3.7 6f4.0 6fh.3 6fj.0 6fk.7 6fx.0 6hc.4 6i9.0 6iq.e 6ir.0 6iv.e 6iw.0 ",
     "6iy.7 6iz.e 6j2.7 6j4.e 6j7.7 6j8.0 6j9.e 6ja.0 6jd.e 6ji.0 6jo.e 6jp.0 6jq.e 6jr.0 6js.e 6jt.0 ",
     "6ju.e 6jy.0 6jz.7 6k0.e 6k4.7 6k5.9 6k9.7 6ka.0 6kc.7 6ke.e 6kg.0 6kl.e 6km.7 6kq.0 6ku.7 6kv.0 ",
     "6lc.e 6ls.7 6m8.9 6mb.e 6mc.7 6md.9 6mh.0 6x4.3 6x8.0 6y1.3 6y3.0 792.e 79s.7 7ai.0 7rv.3 7s1.0 ",
     "7s8.3 7sm.0 7ut.3 7uv.0 7vq.3 7w0.0 877.3 87t.0 89k.3 89o.0 8ak.3 8am.0 8ow.e 8q8.7 8rk.e 8rl.7 ",
     "8rm.e 8rp.7 8rr.e 8rs.7 8rt.e 8ru.7 8rv.e 8rw.7 8rx.e 8s1.7 8s2.e 8s3.7 8s5.e 8s6.7 8se.e 8sh.7 ",
     "8si.e 8sj.7 8sk.e 8sl.7 8sm.e 8sn.7 8so.e 8sp.7 8sq.e 8sr.7 8ss.e 8st.7 8su.e 8sv.7 8sw.e 8sx.7 ",
     "8sy.e 8sz.7 8t0.e 8t1.7 8t2.e 8t3.7 8t4.e 8t5.7 8t6.e 8t7.7 8t8.e 8t9.7 8ta.e 8tb.7 8tc.e 8td.7 ",
     "8te.e 8tf.7 8tg.e 8th.7 8ti.e 8tj.7 8tk.e 8tl.7 8tm.e 8tn.7 8to.e 8tp.7 8tq.e 8tr.7 8ts.e 8tt.7 ",
     "8tu.e 8tv.7 8tw.e 8tx.7 8ty.e 8tz.7 8u0.e 8u1.7 8u2.e 8u3.7 8u4.e 8u5.7 8u6.e 8u7.7 8u8.e 8u9.7 ",
     "8ua.e 8ub.7 8uc.e 8ud.7 8ue.e 8uf.7 8ug.e 8uh.7 8ui.e 8uj.7 8uk.e 8ul.7 8um.e 8un.7 8uo.e 8up.7 ",
     "8uq.e 8ur.7 8us.e 8ut.7 8uu.e 8uv.7 8uw.e 8ux.7 8uy.e 8uz.7 8v0.e 8v1.7 8v2.e 8v3.7 8v4.e 8v5.7 ",
     "8v6.e 8v7.7 8v9.0 8vf.e 8vg.7 8vh.e 8vi.7 8vj.4 8vm.e 8vn.7 8vo.0 8w0.7 8x2.0 8x3.7 8x4.0 8x9.7 ",
     "8xa.0 8xc.9 8yw.0 8z3.9 8z4.0 8zj.4 8zk.9 907.0 90g.9 90n.0 90o.9 90v.0 90w.9 913.0 914.9 91b.0 ",
     "91c.9 91j.0 91k.9 91r.0 91s.9 91z.0 920.9 927.0 928.4 934.3 93i.0 93w.3 93y.0 940.3 94a.0 94e.b ",
     "94f.9 94g.0 94s.b 94t.0 94y.3 94z.0 95f.b 95h.3 95p.0 9hc.d 9hd.a 9he.b 9hf.0 9hh.9 9hk.3 9hu.0 ",
     "9hw.3 9i4.0 9i5.3 9i8.0 9i9.9 9ii.4 9io.0 9ip.9 9iu.0 9iw.9 9j1.0 9j5.9 9lj.0 9ll.4 9ln.0 9lp.9 ",
     "9ls.0 9lt.9 9ob.0 9oc.9 9og.0 9ol.9 9ps.0 9pt.9 9sf.0 9sw.9 9ts.0 9v4.9 9vk.0 a9s.9 fcw.0 feo.9 ",
     "wi5.0 wk0.9 wla.0 wlb.b wlc.9 wst.0 wsu.b wsw.9 wtc.8 wtm.9 wto.0 wu8.e wu9.7 wua.e wub.7 wuc.e ",
     "wud.7 wue.e wuf.7 wug.e wuh.7 wui.e wuj.7 wuk.e wul.7 wum.e wun.7 wuo.e wup.7 wuq.e wur.7 wus.e ",
     "wut.7 wuu.e wuv.7 wuw.e wux.7 wuy.e wuz.7 wv0.e wv1.7 wv2.e wv3.7 wv4.e wv5.7 wv6.e wv7.7 wv8.e ",
     "wv9.7 wva.e wvb.7 wvc.e wvd.7 wve.e wvf.7 wvg.e wvh.7 wvi.9 wvj.4 wvn.0 wvo.4 wvy.0 wvz.9 ww0.e ",
     "ww1.7 ww2.e ww3.7 ww4.e ww5.7 ww6.e ww7.7 ww8.e ww9.7 wwa.e wwb.7 wwc.e wwd.7 wwe.e wwf.7 wwg.e ",
     "wwh.7 wwi.e wwj.7 wwk.e wwl.7 wwm.e wwn.7 wwo.e wwp.7 wwq.e wwr.7 wwu.4 www.9 wz4.4 wz6.0 wz7.b ",
     "wz8.0 wzb.b wzc.0 x07.9 x0g.0 x0i.e x0j.7 x0k.e x0l.7 x0m.e x0n.7 x0o.e x0p.7 x0q.e x0r.7 x0s.e ",
     "x0t.7 x0u.e x0v.7 x0y.e x0z.7 x10.e x11.7 x12.e x13.7 x14.e x15.7 x16.e x17.7 x18.e x19.7 x1a.e ",
     "x1b.7 x1c.e x1d.7 x1e.e x1f.7 x1g.e x1h.7 x1i.e x1j.7 x1k.e x1l.7 x1m.e x1n.7 x1o.e x1p.7 x1q.e ",
     "x1r.7 x1s.e x1t.7 x1u.e x1v.7 x1w.e x1x.7 x1y.e x1z.7 x20.e x21.7 x22.e x23.7 x24.e x25.7 x26.e ",
     "x27.7 x28.e x29.7 x2a.e x2b.7 x2c.e x2d.7 x2e.e x2f.7 x2g.e x2h.7 x2i.e x2j.7 x2k.e x2l.7 x2m.e ",
     "x2n.7 x2x.e x2y.7 x2z.e x30.7 x31.e x33.7 x34.e x35.7 x36.e x37.7 x38.e x39.7 x3a.e x3b.7 x3c.9 ",
     "x3d.0 x3f.e x3g.7 x3h.e x3i.7 x3j.9 x3k.e x3l.7 x3m.e x3n.7 x3q.e x3r.7 x3s.e x3t.7 x3u.e x3v.7 ",
     "x3w.e x3x.7 x3y.e x3z.7 x40.e x41.7 x42.e x43.7 x44.e x45.7 x46.e x47.7 x48.e x49.7 x4a.e x4f.7 ",
     "x4g.e x4l.7 x4m.e x4n.7 x4o.e x4p.7 x4q.e x4r.7 x4s.e x4t.7 x4u.e x4v.7 x4w.e x4x.7 x4y.e x4z.7 ",
     "x50.e x54.7 x55.e x56.7 x57.0 x5c.e x5d.7 x5e.0 x5f.7 x5g.0 x5h.7 x5i.e x5j.7 x5k.e x5l.7 x5m.0 ",
     "x6a.7 x6d.e x6e.7 x6f.9 x6g.7 x6j.9 x6q.4 x6r.9 x6u.4 x6v.9 x6z.4 x70.9 x7n.4 x7s.0 x7w.4 x7x.0 ",
     "x8g.9 x9w.0 x9y.b xa0.0 xa8.4 xaa.9 xbo.4 xc6.0 xce.b xcg.8 xcq.0 xcw.4 xde.9 xdk.0 xdn.9 xdo.0 ",
     "xdp.9 xdr.4 xds.8 xe2.9 xeu.4 xf2.0 xf3.b xf4.9 xfr.4 xg4.0 xgg.9 xh9.0 xhc.4 xhg.9 xir.4 xj5.0 ",
     "xjc.b xje.0 xjj.9 xjk.8 xju.0 xk0.9 xk5.4 xk6.9 xkg.8 xkq.9 xkv.0 xkw.9 xm1.4 xmf.0 xmo.9 xmr.4 ",
     "xms.9 xn0.4 xn2.0 xn4.8 xne.0 xnh.b xnk.9 xo7.0 xoa.9 xob.4 xoe.9 xps.4 xpt.9 xpu.4 xpx.9 xpz.4 ",
     "xq1.9 xq6.4 xq8.9 xq9.4 xqa.9 xqb.0 xqz.9 xr2.0 xr4.9 xrf.4 xrk.b xrm.9 xrp.4 xrr.0 xs1.9 xs7.0 ",
     "xs9.9 xsf.0 xsh.9 xsn.0 xsw.9 xt3.0 xt4.9 xtb.0 xtc.7 xuj.0 xuk.7 xuy.0 xv4.7 xxc.9 xyb.4 xyj.b ",
     "xyk.4 xym.0 xyo.8 xyy.0 xz4.9 16lg.0 16ls.9 16mf.0 16mj.9 16nw.0 1d6o.9 1dgu.0 1dgw.9 1dju.0 ",
     "1dkw.7 1dl3.0 1dlf.7 1dlk.0 1dlp.9 1dlq.4 1dlr.9 1dm1.0 1dm2.9 1dmf.0 1dmg.9 1dml.0 1dmm.9 ",
     "1dmn.0 1dmo.9 1dmq.0 1dmr.9 1dmt.0 1dmu.9 1dpu.0 1dqr.9 1e0u.3 1e0w.0 1e1c.9 1e34.0 1e36.9 ",
     "1e4o.0 1e5s.9 1e64.0 1e68.4 1e6o.a 1e6q.0 1e6r.a 1e6s.0 1e6v.3 1e6x.0 1e74.4 1e7k.0 1e7l.a ",
     "1e7n.0 1e7p.3 1e85.0 1e87.3 1e89.0 1e8g.a 1e8i.1 1e8j.0 1e8l.a 1e8m.b 1e8o.a 1e8p.3 1e8v.0 ",
     "1e8z.a 1e90.0 1e9c.9 1e9h.0 1e9i.9 1ed9.0 1edb.5 1edc.0 1edd.b 1ede.0 1edk.3 1edm.0 1edo.a ",
     "1edq.1 1edr.0 1eds.8 1ee2.a 1ee3.0 1ee7.b 1ee8.0 1ee9.e 1eez.3 1ef0.0 1ef1.3 1ef2.0 1ef5.7 ",
     "1efv.3 1efw.0 1efx.3 1efy.0 1efz.3 1eg1.b 1eg2.3 1eg4.a 1eg5.0 1eg6.9 1ehq.4 1ehs.9 1ein.0 ",
     "1eiq.9 1eiw.0 1eiy.9 1ej4.0 1ej6.9 1ejc.0 1eje.9 1ejh.0 1ek9.5 1ekc.0 1ekg.9 1eks.0 1ekt.9 ",
     "1elj.0 1elk.9 1em3.0 1em4.9 1em6.0 1em7.9 1emm.0 1emo.9 1en2.0 1eo0.9 1erf.0 1etc.9 1eut.0 ",
     "1eyl.4 1eym.0 1f28.9 1f31.0 1f34.9 1f4h.0 1f4w.4 1f4x.0 1f5s.9 1f6o.0 1f71.9 1f7v.0 1f80.9 ",
     "1f92.4 1f97.0 1f9c.9 1fa6.0 1fa8.9 1fb8.0 1fbc.9 1fbk.0 1fbl.9 1fbq.0 1fcw.e 1fe0.7 1ff4.9 ",
     "1fha.0 1fhc.8 1fhm.0 1fhs.e 1fis.0 1fiw.7 1fjw.0 1fk0.9 1fl4.0 1flc.9 1fms.0 1fn4.e 1fnf.0 ",
     "1fng.e 1fnv.0 1fnw.e 1fo3.0 1fo4.e 1fo6.0 1fo7.7 1foi.0 1foj.7 1foy.0 1foz.7 1fp6.0 1fp7.7 ",
     "1fp9.0 1fr4.9 1fzr.0 1g00.9 1g0m.0 1g0w.9 1g14.0 1g1s.7 1g1t.9 1g1v.7 1g1y.0 1g1z.7 1g35.0 ",
     "1g36.7 1g3f.0 1g5c.9 1g5i.0 1g5k.9 1g5l.0 1g5m.9 1g6u.0 1g6v.9 1g6x.0 1g70.9 1g71.0 1g73.9 ",
     "1g7q.0 1g80.9 1g8n.0 1g8w.9 1g9r.0 1gbk.9 1gc3.0 1gc4.9 1gc6.0 1gcg.9 1gd2.0 1gdc.9 1ge2.0 ",
     "1gg0.9 1ghk.0 1ghq.9 1ghs.0 1gjk.9 1gjl.4 1gjo.0 1gjp.4 1gjr.0 1gjw.4 1gk0.9 1gk4.0 1gk5.9 ",
     "1gk8.0 1gk9.9 1gl2.0 1gl4.4 1gl7.0 1glb.4 1glc.0 1gly.b 1gm0.0 1gm8.9 1gn1.0 1gn4.9 1gnx.0 ",
     "1gow.9 1gp4.0 1gp5.9 1gpx.4 1gpz.0 1gqo.9 1gs6.0 1gsg.9 1gt2.0 1gtc.9 1gtv.0 1gu8.9 1guq.0 ",
     "1gxs.9 1gzt.0 1h1c.e 1h2r.0 1h34.7 1h4j.0 1h4w.9 1h5w.4 1h60.0 1h68.8 1h6i.0 1hfk.9 1hgq.0 ",
     "1hgr.4 1hgt.0 1hgw.9 1hgy.0 1hj1.4 1hj4.9 1hjx.0 1hk7.9 1hk8.0 1hkg.9 1hl2.4 1hld.0 1hlh.b ",
     "1hlm.0 1hm8.9 1hmq.4 1hmu.b 1hmy.0 1ho0.9 1hol.0 1hpc.9 1hpz.0 1hq8.4 1hqb.9 1hrs.4 1hs7.b ",
     "1hs9.0 1ht2.8 1htc.4 1htd.9 1htf.4 1hth.9 1hti.0 1htr.4 1htv.9 1hv4.4 1hvf.0 1hvh.5 1hvi.b ",
     "1hvm.4 1hvn.0 1hvx.5 1hvy.0 1hw0.9 1hwp.0 1hww.8 1hx6.0 1hxc.4 1hxf.9 1hyf.4 1hyt.0 1hyu.8 ",
     "1hz4.0 1hz5.b 1hz8.9 1hz9.4 1hzb.9 1hzc.0 1hzk.9 1i0j.4 1i0k.0 1i0m.9 1i0n.0 1i0w.4 1i0z.9 ",
     "1i2b.4 1i2p.9 1i2t.b 1i2v.0 1i2x.4 1i31.b 1i32.4 1i34.8 1i3e.9 1i3f.0 1i3g.9 1i3h.0 1i3i.b ",
     "1i3k.0 1i4g.9 1i4y.0 1i4z.9 1i5o.4 1i60.b 1i62.0 1i63.b 1i65.0 1i66.4 1i67.9 1i69.4 1i6a.0 ",
     "1i80.9 1i87.0 1i88.9 1i89.0 1i8a.9 1i8e.0 1i8f.9 1i8u.0 1i8v.9 1i95.b 1i96.0 1i9c.9 1ian.4 ",
     "1iaz.0 1ib4.8 1ibe.0 1ibk.4 1ibo.0 1ibp.9 1ibx.0 1ibz.9 1ic1.0 1ic3.9 1icp.0 1icq.9 1icx.0 ",
     "1icy.9 1id0.0 1id1.9 1id6.0 1id7.4 1id9.9 1ida.4 1idh.0 1idj.4 1idl.0 1idn.4 1idq.0 1ids.9 ",
     "1idt.0 1idz.4 1ie0.0 1ie5.9 1iea.4 1iec.0 1iee.4 1iel.0 1ieo.4 1iet.0 1iio.9 1ik5.4 1ikn.9 ",
     "1ikr.b 1ikt.0 1ikw.8 1il6.0 1ila.4 1ilb.9 1ile.0 1im8.9 1ink.4 1io4.9 1io6.0 1io7.9 1io8.0 ",
     "1iog.8 1ioq.0 1itc.9 1iun.4 1iuu.0 1iuw.4 1iv5.0 1iv6.b 1iv8.0 1ivd.b 1ivs.9 1ivw.4 1ivy.0 ",
     "1iww.9 1iy8.4 1iyp.b 1iyr.0 1iys.9 1iyt.0 1iz4.8 1ize.0 1j0g.9 1j1n.4 1j20.9 1j21.0 1j28.8 ",
     "1j2i.0 1j40.9 1j4r.0 1j4t.4 1j58.0 1j5c.8 1j5m.0 1j5o.b 1j5r.0 1j5s.9 1j5z.0 1jb4.9 1jcc.4 ",
     "1jcr.0 1jfk.e 1jgg.7 1jhc.8 1jhm.0 1ji7.9 1jif.0 1jih.9 1jii.0 1jik.9 1jis.0 1jit.9 1jiv.0 ",
     "1jiw.9 1jjk.4 1jjq.0 1jjr.4 1jjt.0 1jjv.4 1jjz.9 1jk0.4 1jk1.9 1jk2.4 1jk4.b 1jk5.0 1jk6.b ",
     "1jk7.0 1jkg.8 1jkq.0 1jmo.9 1jmw.0 1jmy.9 1jo1.4 1jo8.0 1joa.4 1joh.9 1joi.0 1joj.9 1jok.4 ",
     "1jol.0 1jpc.9 1jpd.4 1jpn.9 1jqr.4 1jqy.9 1jqz.4 1jr3.0 1jr6.b 1jr8.0 1jrb.4 1jrc.0 1jrk.9 ",
     "1jrl.4 1jrw.9 1jt6.4 1jtm.0 1jtn.b 1jtp.9 1jtq.0 1ju8.9 1jw9.0 1k3k.9 1k3t.0 1k3u.9 1k4v.4 ",
     "1k53.0 1k54.4 1k5c.9 1k5d.b 1k5f.0 1k5s.8 1k62.0 1k6q.9 1k7k.0 1k7m.4 1k88.0 1k89.4 1k8n.0 ",
     "1kao.9 1kav.0 1kaw.9 1kay.0 1kaz.9 1kc1.4 1kc7.0 1kca.4 1kcb.0 1kcc.4 1kce.0 1kcf.4 1kcm.9 ",
     "1kcn.4 1kco.0 1kcw.8 1kd6.0 1kdc.9 1kdi.0 1kdj.9 1kdl.0 1kdm.9 1kei.4 1ken.0 1keo.4 1keq.0 ",
     "1ker.4 1kew.9 1kex.0 1kf4.8 1kfe.0 1ko0.9 1koj.4 1kon.b 1kop.0 1kow.4 1koy.9 1koz.4 1kp0.9 ",
     "1kpd.0 1kpe.9 1kqc.4 1kqj.0 1kqm.4 1kqr.b 1kqt.0 1kr4.8 1kre.0 1kts.9 1ktt.0 1kw0.9 1llm.0 ",
     "1log.9 1lrj.0 1ls0.9 1lxg.0 1nyo.9 1o1d.0 1o1s.9 1ovk.5 1ow0.4 1ow1.9 1ow7.4 1owm.0 1s00.9 ",
     "1sg7.0 1z40.9 1zjt.0 1zk0.9 1zkv.0 1zkw.8 1zl6.0 1zla.b 1zlc.9 1znj.0 1znk.8 1znu.0 1zo0.9 ",
     "1zou.0 1zow.4 1zp1.b 1zp2.0 1zpc.9 1zqo.4 1zqv.b 1zqx.0 1zr4.9 1zr8.b 1zr9.0 1zrk.8 1zru.0 ",
     "1zs3.9 1zso.0 1zst.9 1ztc.0 20cg.e 20dc.7 20e8.0 20ew.b 20ex.0 20hs.9 20jv.0 20jz.4 20k0.9 ",
     "20k1.4 20lk.0 20lr.4 20lv.9 20m8.0 20o0.9 20o2.0 20o3.9 20o4.4 20o5.0 20og.4 20oi.0 20ow.9 ",
     "25fc.0 25fk.9 26dy.0 26f4.9 26fd.0 2dbk.9 2dbo.0 2dbp.9 2dbw.0 2dbx.9 2dbz.0 2dc0.9 2dk3.0 ",
     "2dki.9 2dkj.0 2dlc.9 2dlf.0 2dlh.9 2dli.0 2dlw.9 2dm0.0 2dm8.9 2dx8.0 2fpc.9 2fsb.0 2fsg.9 ",
     "2fst.0 2fsw.9 2ft5.0 2ftc.9 2ftm.0 2ftp.4 2ftr.b 2fts.5 2ftw.0 2jgg.4 2jhq.0 2jhs.4 2jif.0 ",
     "2jxh.4 2jxm.0 2jxp.4 2jxv.5 2jy3.4 2jyb.0 2jyd.4 2jyk.0 2jze.4 2jzi.0 2k3m.4 2k3p.0 2kg0.e ",
     "2kgq.7 2khg.e 2ki6.7 2kid.0 2kie.7 2kiw.e 2kjm.7 2kkc.e 2kkd.0 2kke.e 2kkg.0 2kki.e 2kkj.0 ",
     "2kkl.e 2kkn.0 2kkp.e 2kkt.0 2kku.e 2kl2.7 2kl6.0 2kl7.7 2kl8.0 2kl9.7 2klg.0 2klh.7 2kls.e ",
     "2kmi.7 2kn8.e 2kna.0 2knb.e 2knf.0 2knh.e 2knp.0 2knq.e 2knx.0 2kny.7 2koo.e 2koq.0 2kor.e ",
     "2kov.0 2kow.e 2kp1.0 2kp2.e 2kp3.0 2kp6.e 2kpd.0 2kpe.7 2kq4.e 2kqu.7 2krk.e 2ksa.7 2kt0.e ",
     "2ktq.7 2kug.e 2kv6.7 2kvw.e 2kwm.7 2kxc.e 2ky2.7 2kyu.0 2kyw.e 2kzl.0 2kzm.7 2l0b.0 2l0c.7 ",
     "2l0i.e 2l17.0 2l18.7 2l1x.0 2l1y.7 2l24.e 2l2t.0 2l2u.7 2l3j.0 2l3k.7 2l3q.e 2l4f.0 2l4g.7 ",
     "2l55.0 2l56.7 2l5c.e 2l61.0 2l62.7 2l6r.0 2l6s.7 2l6y.e 2l6z.7 2l70.0 2l72.8 2l8g.0 2lmo.4 ",
     "2lo7.0 2lob.4 2lpp.0 2lpx.4 2lpy.0 2lqc.4 2lqd.0 2lqg.b 2lqh.0 2lqz.4 2lr4.0 2lr5.4 2lrk.0 ",
     "2mm8.7 2mmi.9 2mmj.7 2mn3.0 2mn9.7 2mnf.0 2mtc.4 2mtj.0 2mtk.4 2mu1.0 2mu3.4 2mua.0 2mub.4 ",
     "2mud.0 2mue.4 2muj.0 2muo.7 2mwe.0 2mxb.4 2mxc.0 2n0g.9 2n1p.0 2n1s.4 2n1z.9 2n26.0 2n28.8 ",
     "2n2i.0 2n2m.9 2n2n.0 2nbk.9 2nce.4 2ncf.0 2ncw.9 2ne4.4 2ne8.8 2nei.0 2nrk.9 2nsc.4 2nsg.8 ",
     "2nsq.0 2odc.9 2odj.0 2odk.9 2odo.0 2odp.9 2odr.0 2ods.9 2oe7.0 2oe8.9 2ojp.0 2ok0.4 2ok7.0 ",
     "2olc.e 2oma.7 2on8.4 2onf.9 2ong.0 2onk.8 2onu.0 2pkw.9 2pl0.0 2pl1.9 2pls.0 2plt.9 2plv.0 ",
     "2plw.9 2plx.0 2plz.9 2pm0.0 2pm1.9 2pmb.0 2pmc.9 2pmg.0 2pmh.9 2pmi.0 2pmj.9 2pmk.0 2pmq.9 ",
     "2pmr.0 2pmv.9 2pmw.0 2pmx.9 2pmy.0 2pmz.9 2pn0.0 2pn1.9 2pn4.0 2pn5.9 2pn7.0 2pn8.9 2pn9.0 ",
     "2pnb.9 2pnc.0 2pnd.9 2pne.0 2pnf.9 2png.0 2pnh.9 2pni.0 2pnj.9 2pnk.0 2pnl.9 2pnn.0 2pno.9 ",
     "2pnp.0 2pnr.9 2pnv.0 2pnw.9 2po3.0 2po4.9 2po8.0 2po9.9 2pod.0 2poe.9 2pof.0 2pog.9 2poq.0 ",
     "2por.9 2pp8.0 2ppd.9 2ppg.0 2pph.9 2ppm.0 2ppn.9 2pq4.0 2q7k.e 2q8a.0 2q8g.e 2q96.0 2q9c.e ",
     "2qa2.0 2r92.3 2r95.0 2sc0.8 2sca.0 2t4w.9 3q3k.0 3q4g.9 3tbu.0 3tc0.9 3ti6.0 3ti8.9 3xya.0 ",
     "3xyo.9 43q9.0 464g.9 46ji.0 47pc.9 4bij.0 4bio.9 4er4.0 jny9.5 jnya.0 jnz4.4 jo1s.0 jo5c.4 ",
     "joc0.0"]

def sentenceBreakRuns : Array (Nat × Nat) := readRuns sentenceBreakTable

/-- Each loose alias of a sentence break value other than `Other`, with the value's number. -/
def sentenceBreakAliases : List (String × Nat) :=
  [("at", 1), ("aterm", 1), ("cl", 3), ("close", 3), ("cr", 2), ("ex", 4), ("extend", 4), ("fo", 5), ("format", 5), ("le", 9), ("lf", 6), ("lo", 7), ("lower", 7), ("nu", 8), ("numeric", 8), ("oletter", 9), ("sc", 10), ("scontinue", 10), ("se", 12), ("sep", 12), ("sp", 13), ("st", 11), ("sterm", 11), ("up", 14), ("upper", 14)]

/-- The versions of Unicode, in the order the age table numbers them after `Unassigned`. -/
def ageValues : Array String :=
  #["Unassigned", "1.1", "2.0", "2.1", "3.0", "3.1", "3.2", "4.0", "4.1", "5.0", "5.1", "5.2", "6.0", "6.1", "6.2", "6.3", "7.0", "8.0", "9.0", "10.0", "11.0", "12.0", "12.1", "13.0", "14.0", "15.0"]

/-- Where each run of one age starts, with the number of the version that assigned it. -/
def ageTable : String :=
  String.join
    ["0.1 dy.4 e2.1 ew.4 f4.6 f5.7 f6.4 fo.7 fr.8 g2.9 gg.1 ix.4 j2.7 j4.1 kf.4 kg.1 kq.4 kv.7 lc.1 ",
     "na.4 nj.6 nk.7 ns.8 nx.7 o0.1 o2.4 o3.6 og.a ok.1 om.a oo.0 oq.1 or.9 ou.1 ov.g ow.0 p0.1 p7.0 ",
     "p8.1 p9.0 pa.1 pu.0 pv.1 r3.a r4.1 rb.4 rc.6 re.1 rf.4 rg.1 rh.4 ri.1 rj.4 rk.1 rl.4 rm.1 s4.5 ",
     "s6.6 s7.7 sc.8 sg.4 sh.1 st.4 su.1 uo.4 up.1 v1.4 v2.1 w7.a w8.4 wa.6 wc.4 wg.1 xx.6 xz.1 y1.6 ",
     "y3.1 y5.6 y7.9 y8.1 z0.4 z2.1 za.8 zc.1 ze.9 zk.6 100.9 104.a 10k.b 10m.c 10o.g 10w.0 10x.1 ",
     "11z.0 121.1 128.k 129.1 13c.k 13d.1 13e.4 13f.0 13h.g 13j.d 13k.0 13l.2 142.8 143.2 14g.1 14q.9 ",
     "14r.1 150.2 151.8 154.0 15c.1 163.0 167.k 168.1 16d.0 16o.7 16s.d 16t.g 16u.a 16z.8 170.1 171.7 ",
     "17a.a 17f.1 17g.f 17h.o 17i.8 17j.1 17k.c 17l.1 18b.a 18g.1 18z.4 192.7 195.8 19b.c 19c.1 19q.6 ",
     "19s.1 1bs.4 1bu.1 1bz.4 1c0.1 1cf.4 1cg.1 1da.7 1dc.1 1dm.4 1dr.7 1ds.4 1e6.0 1e7.4 1f1.7 1f4.4 ",
     "1fv.0 1fx.7 1g0.8 1gu.a 1hc.4 1ip.6 1iq.0 1j4.9 1kr.0 1kt.k 1kw.b 1m6.0 1m8.b 1mn.0 1mo.c 1ng.0 ",
     "1ni.c 1nj.0 1nk.j 1nv.0 1o0.o 1ov.0 1ow.o 1oy.0 1p4.o 1pc.d 1pd.g 1pe.d 1pp.g 1pv.h 1px.o 1py.i ",
     "1q6.n 1qg.o 1qr.k 1qs.i 1r7.h 1r8.d 1rz.g 1s0.b 1s1.1 1s4.7 1s5.1 1tm.c 1to.1 1u6.b 1u7.c 1u8.1 ",
     "1ud.b 1ue.c 1ug.1 1v5.a 1v7.c 1vc.g 1vd.b 1vf.9 1vh.8 1vi.9 1vk.g 1vl.1 1vo.0 1vp.1 1vx.0 1vz.1 ",
     "1w1.0 1w3.1 1wp.0 1wq.1 1wx.0 1wy.1 1wz.0 1x2.1 1x6.0 1x8.1 1x9.7 1xa.1 1xh.0 1xj.1 1xl.0 1xn.1 ",
     "1xq.8 1xr.0 1xz.1 1y0.0 1y4.1 1y6.0 1y7.1 1yc.0 1ye.1 1yz.b 1z0.j 1z2.k 1z3.0 1z5.7 1z6.1 1z7.7 ",
     "1z8.0 1z9.1 1zf.0 1zj.1 1zl.0 1zn.1 209.0 20a.1 20h.0 20i.1 20k.0 20l.1 20n.0 20o.1 20q.0 20s.1 ",
     "20t.0 20u.1 20z.0 213.1 215.0 217.1 21a.0 21d.a 21e.0 21l.1 21p.0 21q.1 21r.0 21y.1 22d.a 22e.k ",
     "22f.0 22p.1 22s.0 22t.1 230.7 231.1 232.0 233.1 236.0 237.1 23t.0 23u.1 241.0 242.1 244.0 245.1 ",
     "24a.0 24c.1 24m.0 24n.1 24q.0 24r.1 24u.0 24w.1 24x.0 25c.1 25d.7 25g.0 25i.1 25s.d 25t.7 25u.0 ",
     "261.h 262.j 268.0 269.1 26c.0 26d.1 26l.0 26n.1 26p.0 26r.1 27d.0 27e.1 27l.0 27m.1 27o.0 27p.7 ",
     "27q.1 27u.0 27w.1 284.a 285.0 287.1 289.0 28b.1 28e.0 28l.n 28m.1 28o.0 28s.1 28u.0 28v.1 28y.a ",
     "290.0 292.1 29d.7 29e.c 29k.0 29u.1 29w.0 29x.1 2a3.0 2a6.1 2a9.0 2aa.1 2ae.0 2ah.1 2aj.0 2ak.1 ",
     "2al.0 2am.1 2ao.0 2ar.1 2at.0 2aw.1 2az.0 2b2.1 2ba.8 2bb.1 2be.0 2bi.1 2bn.0 2bq.1 2bt.0 2bu.1 ",
     "2by.0 2c0.a 2c1.0 2c7.1 2c8.0 2cm.8 2cn.1 2cz.7 2d7.0 2dc.g 2dd.1 2dg.k 2dh.1 2dp.0 2dq.1 2dt.0 ",
     "2du.1 2eh.0 2ei.1 2es.g 2et.1 2ey.0 2f0.o 2f1.a 2f2.1 2f9.0 2fa.1 2fd.0 2fe.1 2fi.0 2fp.1 2fr.0 ",
     "2fs.a 2fu.h 2fv.0 2fx.o 2fy.0 2g0.1 2g2.a 2g4.0 2g6.1 2gg.0 2gn.l 2go.a 2gw.i 2gx.g 2gy.1 2h0.k ",
     "2h1.1 2h9.0 2ha.1 2hd.0 2he.1 2i1.0 2i2.1 2ic.0 2id.1 2ii.0 2ik.7 2im.1 2it.0 2iu.1 2ix.0 2iy.1 ",
     "2j2.0 2j9.1 2jb.0 2jh.o 2ji.1 2jj.0 2jk.1 2jm.9 2jo.0 2jq.1 2k0.0 2k1.9 2k3.p 2k4.0 2kg.j 2kh.g ",
     "2ki.1 2kk.n 2kl.1 2kt.0 2ku.1 2kx.0 2ky.1 2ll.c 2lm.1 2m2.c 2m3.j 2m5.a 2m6.1 2mc.a 2md.0 2me.1 ",
     "2mh.0 2mi.1 2mm.c 2mn.i 2mo.0 2ms.i 2mv.1 2mw.i 2n3.h 2n4.1 2n6.a 2n8.0 2na.1 2nk.a 2nq.i 2nt.a ",
     "2o0.0 2o1.n 2o2.4 2o4.0 2o5.4 2on.0 2oq.4 2pe.0 2pf.4 2po.0 2pp.4 2pq.0 2ps.4 2pz.0 2q2.4 2q3.0 ",
     "2q7.4 2qd.0 2qe.4 2qf.0 2qg.4 2qo.0 2qu.g 2r4.0 2r6.4 2r9.0 2rl.1 2t7.0 2tb.1 2u4.0 2v5.1 2v7.0 ",
     "2v8.1 2v9.0 2va.l 2vb.1 2vd.l 2ve.1 2vf.0 2vg.l 2vh.1 2vi.l 2vo.1 2vs.l 2vt.1 2w0.l 2w1.1 2w4.0 ",
     "2w5.1 2w6.0 2w7.1 2w8.l 2wa.1 2wc.l 2wd.1 2wq.l 2wr.1 2wu.0 2ww.1 2x1.0 2x2.1 2x3.0 2x4.1 2xa.p ",
     "2xb.0 2xc.1 2xm.0 2xo.1 2xq.d 2xs.0 2yo.2 30o.0 30p.2 31m.4 31n.a 31p.0 31t.2 32k.c 32o.2 32u.4 ",
     "32v.2 32w.0 32x.2 33i.4 33l.2 33s.4 33t.2 33u.4 33x.0 33y.4 34d.0 34e.a 34f.4 34g.8 34i.a 34l.b ",
     "34p.c 34r.0 35s.4 36q.a 36r.4 36w.a 36x.4 36z.a 370.4 377.a 37a.4 37e.a 37k.4 38a.a 3a2.b 3a6.a ",
     "3a8.1 3ba.0 3bb.d 3bc.0 3bh.d 3bi.0 3bk.1 3cn.6 3cp.8 3cr.1 3cs.8 3ct.d 3cw.1 3fe.b 3fj.1 3hf.b ",
     "3hk.1 3ju.b 3k0.4 3k7.8 3k8.4 3lz.8 3m0.4 3m1.0 3m2.4 3m6.0 3m8.4 3mf.0 3mg.4 3mh.0 3mi.4 3mm.0 ",
     "3mo.4 3nr.8 3ns.4 3nt.0 3nu.4 3ny.0 3o0.4 3ov.8 3ow.4 3ox.0 3oy.4 3p2.0 3p4.4 3pb.0 3pc.4 3pd.0 ",
     "3pe.4 3pi.0 3pk.4 3pr.8 3ps.4 3pz.0 3q0.4 3qn.8 3qo.4 3rj.8 3rk.4 3rl.0 3rm.4 3rq.0 3rs.4 3rz.8 ",
     "3s0.4 3t3.8 3t4.4 3tn.0 3tp.c 3tr.8 3tt.4 3ul.0 3uo.8 3ve.0 3vk.4 3xx.h 3xy.0 3y0.h 3y6.0 3y8.b ",
     "3y9.4 4fr.b 4g0.4 4gt.0 4gw.4 4j5.g 4jd.0 4jk.6 4jx.o 4jy.6 4k5.o 4k6.0 4kf.o 4kg.6 4l3.0 4lc.6 ",
     "4lw.0 4m8.6 4ml.0 4mm.6 4mp.0 4mq.6 4ms.0 4n4.4 4pp.7 4pq.0 4ps.4 4q2.0 4q8.7 4qi.0 4qo.4 4r3.o ",
     "4r4.4 4re.0 4rk.4 4u0.k 4u1.0 4u8.4 4ve.a 4vf.0 4vk.b 4xi.0 4xs.7 4yl.g 4yn.0 4yo.7 4z0.0 4z4.7 ",
     "4zg.0 4zk.7 4zl.0 4zo.7 50u.0 50w.7 511.0 51c.8 52i.b 52k.0 52o.8 53e.0 53k.8 53u.b 53v.0 53y.8 ",
     "540.7 54w.8 55o.0 55q.8 55s.b 57j.0 57k.b 58d.0 58f.b 58q.0 58w.b 596.0 59c.b 59q.0 59s.g 5a7.n ",
     "5a9.o 5an.0 5c0.9 5e4.o 5e5.0 5e8.9 5fh.o 5fj.0 5fk.a 5gr.d 5gu.a 5h6.d 5hc.c 5is.0 5j0.c 5j4.a ",
     "5ko.0 5kr.a 5l6.0 5l9.a 5mo.i 5mx.0 5n4.k 5ob.0 5od.k 5og.d 5oo.0 5ow.b 5pv.d 5pz.j 5q0.g 5q2.l ",
     "5q3.0 5q8.7 5t8.8 5vo.9 5vv.a 5wn.g 5x2.j 5x6.o 5x7.i 5x8.c 5x9.b 5xa.9 5xc.1 61n.2 61o.a 61s.1 ",
     "64a.a 64g.1 652.0 654.1 65a.0 65c.1 66e.0 66g.1 66m.0 66o.1 66w.0 66x.1 66y.0 66z.1 670.0 671.1 ",
     "672.0 673.1 67y.0 680.1 69h.0 69i.1 69x.0 69y.1 6ac.0 6ae.1 6ak.0 6al.1 6b4.0 6b6.1 6b9.0 6ba.1 ",
     "6bj.0 6bk.1 6cv.4 6cw.1 6dj.6 6dk.4 6dq.6 6dv.7 6dx.8 6dz.6 6e0.8 6e7.6 6ec.a 6ed.0 6ee.f 6ei.1 ",
     "6ep.6 6eq.0 6es.1 6fj.0 6fk.8 6fp.c 6fx.0 6g0.1 6gb.2 6gc.3 6gd.4 6gg.6 6gi.8 6gm.b 6gp.c 6gq.e ",
     "6gr.g 6gu.h 6gv.j 6gw.o 6gx.0 6hc.1 6hu.4 6hw.6 6i3.8 6i4.9 6i8.a 6i9.0 6io.1 6k9.4 6kb.7 6kc.8 ",
     "6kd.6 6ks.8 6kt.9 6kv.a 6kw.b 6kz.1 6mb.4 6mc.9 6md.a 6mh.b 6mi.h 6mk.0 6mo.1 6p7.4 6pg.6 6ps.1 ",
     "6wi.6 6ww.1 6wx.4 6wy.1 70b.4 70c.6 70d.4 717.6 72n.7 72p.8 730.9 73c.b 73d.c 73o.g 73v.i 73z.j ",
     "740.1 751.4 753.0 75s.1 763.0 76o.1 7aj.6 7b3.7 7b4.1 7fa.6 7fk.1 7hs.4 7i0.6 7i8.1 7is.7 7iu.6 ",
     "7iw.8 7ix.4 7iy.1 7lc.4 7le.6 7lq.8 7ls.6 7m2.7 7ma.8 7ml.a 7mm.b 7mo.7 7mq.8 7n6.9 7n7.a 7nh.b ",
     "7nk.a 7no.b 7ny.c 7nz.b 7oi.c 7oj.b 7ok.c 7oo.b 7pc.g 7pd.1 7ph.c 7pi.1 7pm.c 7po.1 7qg.c 7qh.1 ",
     "7rg.c 7rh.1 7ri.c 7rj.1 7rn.c 7rq.1 7rr.b 7rs.1 7rz.c 7s1.1 7s8.6 7sm.1 7th.c 7tk.1 7u8.c 7u9.1 ",
     "7un.c 7uo.8 7uv.9 7uz.d 7v0.a 7v1.d 7v2.c 7v4.6 7vw.a 7w0.6 7wg.4 83k.6 8hs.7 8i6.8 8ic.9 8ij.a ",
     "8io.9 8is.a 8jx.g 8k0.a 8k5.b 8ka.g 8l0.0 8l2.g 8ly.0 8lz.n 8m0.g 8my.k 8n1.g 8nd.l 8ne.g 8nm.j ",
     "8nn.k 8oc.h 8og.k 8ov.l 8ow.8 8q7.o 8q8.8 8rj.o 8rk.9 8rx.a 8s0.b 8s1.a 8s4.9 8s8.a 8se.b 8sg.8 ",
     "8vf.b 8vm.d 8vo.0 8vt.8 8x2.0 8x3.d 8x4.0 8x9.d 8xa.0 8xc.8 8yu.d 8yw.0 8z3.8 8z4.c 8z5.0 8zj.c ",
     "8zk.8 907.0 90g.8 90n.0 90o.8 90v.0 90w.8 913.0 914.8 91b.0 91c.8 91j.0 91k.8 91r.0 91s.8 91z.0 ",
     "920.8 927.0 928.a 934.8 93s.a 93w.8 93y.a 94h.b 94i.d 94s.g 94z.i 951.j 956.k 95b.l 95c.n 95f.o ",
     "95q.0 96o.4 97e.0 97f.4 99w.0 9a8.4 9g6.0 9gw.4 9h8.0 9hc.1 9iw.4 9iz.6 9j2.4 9j3.1 9j4.0 9j5.1 ",
     "9lh.6 9lj.0 9ll.1 9lr.6 9lt.1 9of.6 9og.0 9ol.1 9pp.a 9pq.j 9pr.k 9ps.0 9pt.1 9sf.0 9sg.1 9sw.4 ",
     "9tk.c 9tn.n 9ts.8 9u8.a 9us.0 9v4.6 9vk.1 9wd.7 9wf.0 9wg.1 9xg.b 9xs.7 9xt.6 9y8.1 9z0.7 9z2.8 ",
     "9z3.1 a0h.6 a0w.1 a18.7 a1c.1 a2n.m a2o.1 a5z.7 a63.1 a8u.7 a8w.1 a9r.7 a9s.4 fcm.n fcw.7 feo.1 ",
     "vja.8 vjw.a vk4.b vkc.d vkd.h vkm.j vl7.k vlc.n vlp.o vls.4 wi5.0 wi8.4 wiq.6 wis.4 wj8.6 wj9.4 ",
     "wjl.6 wjm.4 wjp.6 wjq.4 wjr.0 wk0.b wlc.a wto.0 wu8.a wv4.c wv6.a wvo.d wvw.a wwo.g wwu.h wwv.d ",
     "www.b wzc.0 wzk.8 x07.9 x0b.a x0g.9 x0i.a x3h.c x3j.h x3k.c x3m.d x3o.g x40.c x4a.d x4b.g x4e.i ",
     "x4f.k x4g.g x4i.h x4o.k x4q.l x4w.o x4y.l x53.n x57.0 x5c.o x5e.0 x5f.o x5g.0 x5h.o x5m.0 x6a.o ",
     "x6d.n x6f.g x6g.d x6i.c x6j.a x6o.8 x7w.n x7x.0 x80.b x8a.0 x8g.9 xa0.0 xa8.a xc5.i xc6.0 xce.a ",
     "xcq.0 xcw.b xdo.h xdq.k xds.a xg4.0 xgf.a xgg.b xh9.0 xhc.b xji.0 xjj.b xju.0 xjy.b xk0.g xkv.0 ",
     "xkw.a xmf.0 xmo.a xn2.0 xn4.a xne.0 xng.a xnk.b xoc.g xog.b xqb.0 xqz.b xr4.d xrr.0 xs1.c xs7.0 ",
     "xs9.c xsf.0 xsh.c xsn.0 xsw.c xt3.0 xt4.c xtb.0 xtc.g xuo.h xus.g xuu.l xuw.n xv0.0 xv4.h xxc.b ",
     "xym.0 xyo.b xyy.0 xz4.2 16lg.0 16ls.b 16mf.0 16mj.b 16nw.0 16o0.2 188w.1 1df2.d 1df4.6 1dgr.b ",
     "1dgu.0 1dgw.8 1dju.0 1dkw.1 1dl3.0 1dlf.1 1dlk.0 1dlp.4 1dlq.1 1dmf.0 1dmg.1 1dml.0 1dmm.1 ",
     "1dmn.0 1dmo.1 1dmq.0 1dmr.1 1dmt.0 1dmu.1 1dpu.c 1dqa.o 1dqb.0 1dqr.1 1e0w.o 1e1c.1 1e34.0 ",
     "1e36.1 1e4o.0 1e4v.o 1e4w.5 1e5s.1 1e64.6 1e65.7 1e66.o 1e68.6 1e6o.8 1e6y.0 1e74.1 1e78.a ",
     "1e7b.g 1e7i.h 1e7k.1 1e85.6 1e87.7 1e89.1 1e8j.0 1e8k.1 1e93.0 1e94.1 1e98.0 1e9c.1 1e9f.6 ",
     "1e9g.1 1e9h.0 1e9i.1 1ed9.0 1edb.1 1edc.0 1edd.1 1efz.6 1eg1.1 1ein.0 1eiq.1 1eiw.0 1eiy.1 ",
     "1ej4.0 1ej6.1 1ejc.0 1eje.1 1ejh.0 1ejk.1 1ejr.0 1ejs.1 1ejz.0 1ek9.4 1ekc.3 1ekd.1 1ekg.7 ",
     "1eks.0 1ekt.7 1elj.0 1elk.7 1em3.0 1em4.7 1em6.0 1em7.7 1emm.0 1emo.7 1en2.0 1eo0.7 1erf.0 ",
     "1erk.7 1ern.0 1err.7 1et0.0 1et3.7 1etc.8 1evf.g 1evh.i 1evj.0 1evk.a 1evw.n 1evx.0 1ew0.g ",
     "1ew1.0 1exc.a 1eym.0 1f28.a 1f31.0 1f34.a 1f4h.0 1f4w.g 1f5o.0 1f5s.5 1f6n.g 1f6o.5 1f6s.0 ",
     "1f71.j 1f74.5 1f7v.0 1f80.g 1f97.0 1f9c.7 1fa6.0 1fa7.7 1fa8.8 1fb8.0 1fbc.8 1fbq.0 1fcw.5 ",
     "1fdy.7 1fe0.5 1ff2.7 1fha.0 1fhc.7 1fhm.0 1fhs.i 1fis.0 1fiw.i 1fjw.0 1fk0.g 1fl4.0 1flc.g ",
     "1fms.0 1fn3.g 1fn4.o 1fnf.0 1fng.o 1fnv.0 1fnw.o 1fo3.0 1fo4.o 1fo6.0 1fo7.o 1foi.0 1foj.o ",
     "1foy.0 1foz.o 1fp6.0 1fp7.o 1fp9.0 1fr4.g 1fzr.0 1g00.g 1g0m.0 1g0w.g 1g14.0 1g1s.o 1g1y.0 ",
     "1g1z.o 1g35.0 1g36.o 1g3f.0 1g5c.7 1g5i.0 1g5k.7 1g5l.0 1g5m.7 1g6u.0 1g6v.7 1g6x.0 1g70.7 ",
     "1g71.0 1g73.7 1g74.b 1g7q.0 1g7r.b 1g80.g 1g9r.0 1g9z.g 1ga8.0 1gbk.h 1gc3.0 1gc4.h 1gc6.0 ",
     "1gcb.h 1gcg.9 1gd6.b 1gd8.0 1gdb.9 1gdc.a 1ge2.0 1ge7.a 1ge8.0 1gg0.d 1ghk.0 1gho.h 1ghq.d ",
     "1ghs.h 1gi8.0 1gia.h 1gjk.8 1gjo.0 1gjp.8 1gjr.0 1gjw.8 1gk4.0 1gk5.8 1gk8.0 1gk9.8 1gl0.k ",
     "1gl2.0 1gl4.8 1gl7.0 1glb.8 1glk.k 1gll.0 1gls.8 1gm1.0 1gm8.b 1gn4.g 1go0.0 1gow.g 1gpz.0 ",
     "1gq3.g 1gqf.0 1gqo.b 1gs6.0 1gs9.b 1gt2.0 1gt4.b 1gtv.0 1gu0.b 1gu8.g 1guq.0 1gux.g 1gv1.0 ",
     "1gvd.g 1gvk.0 1gxs.b 1gzt.0 1h1c.h 1h2r.0 1h34.h 1h4j.0 1h4q.h 1h4w.k 1h60.0 1h68.k 1h6i.0 ",
     "1heo.b 1hfj.0 1hfk.n 1hgq.0 1hgr.n 1hgu.0 1hgw.n 1hgy.0 1hj1.p 1hj4.k 1hk8.0 1hkg.k 1hlm.0 ",
     "1hm8.o 1hmy.0 1ho0.n 1hos.0 1hpc.l 1hpz.0 1hq8.c 1hse.0 1hsi.c 1htc.o 1hti.0 1htr.g 1hts.b ",
     "1hvm.o 1hvn.0 1hvx.k 1hvy.0 1hw0.d 1hwp.0 1hww.d 1hx6.0 1hxc.d 1hyt.0 1hyu.d 1hz8.k 1hzb.n ",
     "1hzc.0 1hzk.g 1i0n.0 1i0w.d 1i2x.h 1i31.g 1i32.n 1i34.d 1i3e.g 1i3f.h 1i3k.0 1i3l.g 1i45.0 ",
     "1i4g.g 1i4y.0 1i4z.g 1i66.i 1i67.p 1i6a.0 1i80.h 1i87.0 1i88.h 1i89.0 1i8a.h 1i8e.0 1i8f.h ",
     "1i8u.0 1i8v.h 1i96.0 1i9c.g 1iaz.0 1ib4.g 1ibe.0 1ibk.h 1ibl.g 1ibo.0 1ibp.g 1ibx.0 1ibz.g ",
     "1ic1.0 1ic3.g 1icp.0 1icq.g 1icx.0 1icy.g 1id0.0 1id1.g 1id6.0 1id7.k 1id8.g 1idh.0 1idj.g ",
     "1idl.0 1idn.g 1idq.0 1ids.h 1idt.0 1idz.g 1ie0.0 1ie5.g 1iec.0 1iee.g 1iel.0 1ieo.g 1iet.0 ",
     "1iio.i 1il6.n 1il7.i 1il8.0 1il9.i 1ila.k 1ilb.l 1ilc.n 1ile.0 1im8.g 1io8.0 1iog.g 1ioq.0 ",
     "1itc.g 1iuu.0 1iuw.g 1ive.h 1ivy.0 1iww.g 1iyt.0 1iz4.g 1ize.0 1izk.i 1izx.0 1j0g.d 1j20.l ",
     "1j21.o 1j22.0 1j28.d 1j2i.0 1j40.h 1j4q.k 1j4r.0 1j4t.h 1j58.0 1j5c.h 1j5s.o 1j5z.0 1jb4.k ",
     "1jcs.0 1jfk.g 1jhv.0 1ji7.g 1ji8.n 1jif.0 1jih.n 1jii.0 1jik.n 1jis.0 1jit.n 1jiv.0 1jiw.n ",
     "1jjq.0 1jjr.n 1jjt.0 1jjv.n 1jk7.0 1jkg.n 1jkq.0 1jmo.l 1jmw.0 1jmy.l 1jo8.0 1joa.l 1jol.0 ",
     "1jpc.j 1jrc.0 1jrk.j 1jt0.l 1jt2.j 1jtp.k 1jtq.j 1jtv.0 1ju8.o 1juo.g 1jw9.0 1jwg.p 1jwq.0 ",
     "1k3k.i 1k3t.0 1k3u.i 1k53.0 1k54.i 1k5i.0 1k5s.i 1k6l.0 1k6o.i 1k7k.0 1k7m.i 1k88.0 1k89.i ",
     "1k8n.0 1kao.j 1kav.0 1kaw.j 1kay.0 1kaz.j 1kc7.0 1kca.j 1kcb.0 1kcc.j 1kce.0 1kcf.j 1kco.0 ",
     "1kcw.j 1kd6.0 1kdc.k 1kdi.0 1kdj.k 1kdl.0 1kdm.k 1ken.0 1keo.k 1keq.0 1ker.k 1kex.0 1kf4.k ",
     "1kfe.0 1ko0.k 1kop.0 1kow.p 1kpd.0 1kpe.p 1kqj.0 1kqm.p 1kre.0 1kts.n 1ktt.0 1ku8.l 1kvm.0 ",
     "1kvz.l 1kw0.9 1lkf.g 1lll.h 1llm.0 1log.9 1lr7.g 1lrj.0 1lrk.9 1lro.g 1lrp.0 1ls0.h 1lxg.0 ",
     "1nyo.o 1o1f.0 1o1s.b 1ovj.p 1ovk.l 1ovt.p 1owm.0 1s00.h 1sg7.0 1z40.c 1zjt.0 1zk0.g 1zkv.0 ",
     "1zkw.g 1zl6.0 1zla.g 1zlc.o 1znj.0 1znk.o 1znu.0 1zo0.g 1zou.0 1zow.g 1zp2.0 1zpc.g 1zra.0 ",
     "1zrk.g 1zru.0 1zrv.g 1zs2.0 1zs3.g 1zso.0 1zst.g 1ztc.0 20cg.k 20ez.0 20hs.d 20jp.l 20jv.0 ",
     "20jz.l 20k0.d 20lb.l 20lk.0 20lr.d 20m8.0 20o0.i 20o1.j 20o2.l 20o4.n 20o5.0 20og.n 20oi.0 ",
     "20ow.i 25f1.k 25f6.l 25fc.0 25fk.i 260j.n 26dy.0 26f4.n 26fd.0 2dbk.o 2dbo.0 2dbp.o 2dbw.0 ",
     "2dbx.o 2dbz.0 2dc0.c 2dc2.j 2djz.o 2dk3.0 2dki.p 2dkj.0 2dlc.l 2dlf.0 2dlh.p 2dli.0 2dlw.l ",
     "2dm0.0 2dm8.j 2dx8.0 2fpc.g 2fsb.0 2fsg.g 2fst.0 2fsw.g 2ft5.0 2ftc.g 2ftm.0 2fto.g 2ftw.0 ",
     "2jgg.o 2jhq.0 2jhs.o 2jif.0 2jio.o 2jlw.0 2jnk.5 2jue.0 2juo.5 2jvr.0 2jvt.a 2jvu.5 2k0u.h ",
     "2k15.o 2k17.0 2k1s.8 2k3q.0 2k74.p 2k7o.0 2k80.k 2k8k.0 2k8w.7 2kbb.0 2kbk.9 2kc2.k 2kc9.0 ",
     "2kg0.5 2kid.0 2kie.5 2kkd.0 2kke.5 2kkg.0 2kki.5 2kkj.0 2kkl.5 2kkn.0 2kkp.5 2kkt.0 2kku.5 ",
     "2kl6.0 2kl7.5 2kl8.0 2kl9.5 2kld.7 2kle.5 2klg.0 2klh.5 2kna.0 2knb.5 2knf.0 2knh.5 2knp.0 ",
     "2knq.5 2knx.0 2kny.5 2koq.0 2kor.5 2kov.0 2kow.5 2kp1.0 2kp2.5 2kp3.0 2kp6.5 2kpd.0 2kpe.5 ",
     "2kys.8 2kyu.0 2kyw.5 2l6y.9 2l70.0 2l72.5 2l8g.h 2lqk.0 2lqz.h 2lr4.0 2lr5.h 2lrk.0 2mm8.o ",
     "2mn3.0 2mn9.p 2mnf.0 2mtc.i 2mtj.0 2mtk.i 2mu1.0 2mu3.i 2mua.0 2mub.i 2mud.0 2mue.i 2muj.0 ",
     "2muo.p 2mwe.0 2mxb.p 2mxc.0 2n0g.l 2n1p.0 2n1s.l 2n26.0 2n28.l 2n2i.0 2n2m.l 2n2o.0 2nbk.o ",
     "2ncf.0 2ncw.l 2nei.0 2nen.l 2neo.0 2nrk.p 2nsq.0 2odc.o 2odj.0 2odk.o 2odo.0 2odp.o 2odr.0 ",
     "2ods.o 2oe7.0 2oe8.g 2ojp.0 2ojr.g 2ok7.0 2olc.i 2onf.l 2ong.0 2onk.i 2onu.0 2ony.i 2oo0.0 ",
     "2p9t.k 2pbp.0 2pdt.l 2pfi.0 2pkw.d 2pl0.0 2pl1.d 2pls.0 2plt.d 2plv.0 2plw.d 2plx.0 2plz.d ",
     "2pm0.0 2pm1.d 2pmb.0 2pmc.d 2pmg.0 2pmh.d 2pmi.0 2pmj.d 2pmk.0 2pmq.d 2pmr.0 2pmv.d 2pmw.0 ",
     "2pmx.d 2pmy.0 2pmz.d 2pn0.0 2pn1.d 2pn4.0 2pn5.d 2pn7.0 2pn8.d 2pn9.0 2pnb.d 2pnc.0 2pnd.d ",
     "2pne.0 2pnf.d 2png.0 2pnh.d 2pni.0 2pnj.d 2pnk.0 2pnl.d 2pnn.0 2pno.d 2pnp.0 2pnr.d 2pnv.0 ",
     "2pnw.d 2po3.0 2po4.d 2po8.0 2po9.d 2pod.0 2poe.d 2pof.0 2pog.d 2poq.0 2por.d 2pp8.0 2ppd.d ",
     "2ppg.0 2pph.d 2ppm.0 2ppn.d 2pq4.0 2prk.d 2prm.0 2pz4.a 2q0c.0 2q0g.a 2q38.0 2q3k.c 2q3z.0 ",
     "2q41.c 2q4f.g 2q4g.0 2q4h.c 2q4w.0 2q4x.c 2q5c.g 2q5y.0 2q68.b 2q6j.g 2q6l.n 2q6o.b 2q7j.k ",
     "2q7k.c 2q7l.b 2q7m.c 2q7x.b 2q7y.c 2q7z.b 2q80.c 2q82.b 2q83.c 2q86.b 2q87.c 2q8a.b 2q8f.c ",
     "2q8n.b 2q8o.c 2q8v.b 2q8w.c 2q96.d 2q98.l 2q99.n 2q9c.c 2q9l.b 2q9m.c 2q9n.b 2q9p.c 2q9r.b ",
     "2q9s.c 2qa2.b 2qa6.c 2qa8.b 2qa9.c 2qaj.i 2qb1.n 2qb2.0 2qcm.c 2qdc.b 2qdd.c 2qdf.0 2qds.b ",
     "2qeq.c 2qez.i 2qf0.0 2qf4.b 2qfd.0 2qfk.c 2qfm.0 2qg0.j 2qg6.0 2qkg.c 2qld.g 2qlp.h 2qls.c ",
     "2qly.g 2qlz.c 2qnx.g 2qny.h 2qo0.c 2qok.g 2qow.c 2qpx.g 2qpy.c 2qq3.g 2qq7.h 2qqc.g 2qqo.c ",
     "2qr5.g 2qrc.h 2qrk.c 2qtb.g 2qtc.c 2qtd.g 2qte.c 2qyg.g 2qyh.c 2qyl.g 2qyn.h 2qyo.c 2r0e.g ",
     "2r0g.d 2r0k.g 2r0r.h 2r0w.c 2r1k.g 2r22.i 2r23.g 2r38.i 2r39.g 2r5n.c 2r5s.d 2r5t.c 2r69.d ",
     "2r6a.c 2r6d.d 2r6e.c 2r6f.d 2r6g.c 2r6h.d 2r6i.c 2r6j.d 2r6k.c 2r6n.d 2r6o.c 2r6u.d 2r6w.c ",
     "2r70.d 2r71.c 2r72.d 2r74.c 2r78.d 2r79.c 2r7l.g 2r7n.h 2r7p.c 2r80.g 2r9c.c 2rba.g 2rbk.h ",
     "2rbl.i 2rbn.j 2rbp.l 2rbq.n 2rbs.0 2rbw.p 2rbx.o 2rc0.g 2rcd.0 2rcg.g 2rck.i 2rcn.j 2rcp.k ",
     "2rcq.l 2rcr.n 2rct.0 2rcw.c 2rg4.p 2rg7.0 2rgb.p 2rgg.g 2rit.k 2rix.p 2riy.0 2rj4.l 2rjg.0 ",
     "2rjk.o 2rjl.0 2rk0.g 2rkc.0 2rkg.g 2rm0.0 2rm8.g 2rmi.0 2rmo.g 2rns.0 2ro0.g 2rou.0 2row.n ",
     "2roy.0 2rr4.j 2rrg.n 2rrh.l 2rrk.h 2rrt.i 2rrz.j 2rs0.i 2rs8.j 2rsg.i 2rsh.j 2rsj.i 2rsv.l ",
     "2rsw.i 2rt8.j 2rt9.k 2rtc.i 2rtr.j 2ru4.k 2ru9.l 2rua.n 2rub.k 2ruf.n 2ruh.o 2rui.k 2ruj.l ",
     "2ruk.k 2ruo.h 2rut.i 2rv6.j 2rvc.k 2rvn.n 2rvp.l 2rvv.n 2rvy.l 2rw0.k 2rwa.l 2rwg.h 2rwh.k ",
     "2rwj.l 2rwr.n 2rws.o 2rwt.l 2rww.j 2rxj.k 2ry8.l 2s0k.0 2s0w.k 2s1a.0 2s1c.l 2s1g.n 2s1h.p ",
     "2s1k.l 2s1n.o 2s1p.0 2s1s.l 2s1v.n 2s1z.p 2s21.0 2s28.l 2s2e.n 2s2x.o 2s31.p 2s34.n 2s3b.o ",
     "2s3f.p 2s3i.0 2s3j.p 2s3k.n 2s3n.o 2s3q.0 2s3y.p 2s40.n 2s47.o 2s4a.p 2s4c.0 2s4g.o 2s4o.p ",
     "2s4p.0 2s4w.o 2s53.p 2s55.0 2s5c.n 2s9f.0 2s9g.n 2saz.0 2sc0.n 2sca.0 2t4u.2 2t4w.5 3q3b.n ",
     "3q3i.o 3q3k.0 3q4g.b 3tbp.o 3tbt.p 3tbu.0 3tc0.c 3ti6.0 3ti8.h 3xya.0 3xyo.j 43q9.0 464g.5 ",
     "46ji.0 47pa.2 47pc.n 4bij.0 4bio.p 4er4.0 5m9q.2 5m9s.0 70u6.2 70u8.0 8fem.2 8feo.0 9tz2.2 ",
     "9tz4.0 b8ji.2 b8jk.0 cn3y.2 cn40.0 e1oe.2 e1og.0 fg8u.2 fg8w.0 guta.2 gutc.0 i9dq.2 i9ds.0 ",
     "jny6.2 jny8.0 jny9.5 jnya.0 jnz4.5 jo1s.0 jo5c.7 joc0.0 l2im.2 nvnk.0"]

def ageRuns : Array (Nat × Nat) := readRuns ageTable

/-- Each loose alias of a version with its number. -/
def ageAliases : List (String × Nat) :=
  [("1.1", 1), ("10.0", 19), ("11.0", 20), ("12.0", 21), ("12.1", 22), ("13.0", 23), ("14.0", 24), ("15.0", 25), ("2.0", 2), ("2.1", 3), ("3.0", 4), ("3.1", 5), ("3.2", 6), ("4.0", 7), ("4.1", 8), ("5.0", 9), ("5.1", 10), ("5.2", 11), ("6.0", 12), ("6.1", 13), ("6.2", 14), ("6.3", 15), ("7.0", 16), ("8.0", 17), ("9.0", 18), ("v100", 19), ("v11", 1), ("v110", 20), ("v120", 21), ("v121", 22), ("v130", 23), ("v140", 24), ("v150", 25), ("v20", 2), ("v21", 3), ("v30", 4), ("v31", 5), ("v32", 6), ("v40", 7), ("v41", 8), ("v50", 9), ("v51", 10), ("v52", 11), ("v60", 12), ("v61", 13), ("v62", 14), ("v63", 15), ("v70", 16), ("v80", 17), ("v90", 18)]

end Covenant.Text.Unicode
